import ChatModeration.Proofs.Moderation.Concurrent
import Mathlib.Data.List.Nodup

/-!
# The order in which jobs take effect

A section takes effect when it escalates, or when it turns out that it need not.  The jobs that have taken effect are
those that are over and the sections that have got so far (`Sequenced`), and a job that was over before another one
began has taken effect before it.
-/

namespace ChatModeration.Moderation

/-- The jobs that have taken effect are those that are over and the sections that have got so far. -/
structure Sequenced (order : List Commit) (x : World) : Prop where
  past : ∀ c ∈ order, c.opened < x.time
  nodup : (order.map (·.opened)).Nodup
  done_nodup : (x.done.map (·.opened)).Nodup
  of_done : ∀ d ∈ x.done, d.toCommit ∈ order
  of_mem : ∀ c ∈ order, (∃ d ∈ x.done, d.toCommit = c) ∨
    ∃ k s t later v, x.workers k = .inside s t ∧ t.answer? = some (later, v) ∧ s.commit later v = c
  begun : ∀ {k s t}, x.workers k = .inside s t → s.opened < x.time ∧ ∀ d ∈ x.done, d.opened ≠ s.opened
  own : ∀ {k s t k' s' t'}, x.workers k = .inside s t → x.workers k' = .inside s' t' → s.opened = s'.opened → k = k'
  pending : ∀ {k s t}, x.workers k = .inside s t → t.answer? = none → ∀ c ∈ order, c.opened ≠ s.opened
  settled : ∀ {k s t later v}, x.workers k = .inside s t → t.answer? = some (later, v) → s.commit later v ∈ order
  /-- A job that was over before another one began has taken effect before it. -/
  precedence : order.Pairwise fun b c => ∀ d ∈ x.done, d.toCommit = c → b.opened ≤ d.closed

theorem nodup_map_append_singleton {α β : Type} {f : α → β} {l : List α} {a : α} (h : (l.map f).Nodup)
    (hne : ∀ b ∈ l, f b ≠ f a) : ((l ++ [a]).map f).Nodup := by
  rw [List.map_append, List.nodup_append]
  refine ⟨h, List.nodup_singleton _, fun c hc d hd => ?_⟩
  obtain ⟨b, hb, rfl⟩ := List.mem_map.1 hc
  obtain rfl := List.mem_singleton.1 hd
  exact hne b hb

theorem sequenced_start (r : Records) (snapshot : Snapshot) : Sequenced [] (.start r snapshot) := by
  refine ⟨?_, List.nodup_nil, List.nodup_nil, ?_, ?_, ?_, ?_, ?_, ?_, List.Pairwise.nil⟩
  all_goals simp [World.start]

/-- No job takes effect or is over, and no section begins. -/
theorem Sequenced.pass {order : List Commit} {x y : World} (hx : Sequenced order x) (ht : y.time = x.time + 1)
    (hd : y.done = x.done)
    (hyx : ∀ {j s t}, y.workers j = .inside s t → ∃ t', x.workers j = .inside s t' ∧ t'.answer? = t.answer?)
    (hxy : ∀ {j s t}, x.workers j = .inside s t → ∃ t', y.workers j = .inside s t' ∧ t'.answer? = t.answer?) :
    Sequenced order y := by
  refine ⟨fun c hc => ?_, hx.nodup, by rw [hd]; exact hx.done_nodup, fun d h => hx.of_done d (hd ▸ h), fun c hc => ?_,
    fun {j s t} hj => ?_, fun h₁ h₂ he => ?_, fun {j s t} hj ha => ?_, fun {j s t later v} hj ha => ?_, ?_⟩
  · have := hx.past c hc
    omega
  · rw [hd]
    rcases hx.of_mem c hc with h | ⟨j, s, t, later, v, hj, ha, he⟩
    · exact .inl h
    · obtain ⟨t', hj', ha'⟩ := hxy hj
      exact .inr ⟨j, s, t', later, v, hj', ha'.trans ha, he⟩
  · obtain ⟨t', hj', -⟩ := hyx hj
    rw [ht, hd]
    exact ⟨Nat.lt_succ_of_lt (hx.begun hj').1, (hx.begun hj').2⟩
  · obtain ⟨t₁, g₁, -⟩ := hyx h₁
    obtain ⟨t₂, g₂, -⟩ := hyx h₂
    exact hx.own g₁ g₂ he
  · obtain ⟨t', hj', ha'⟩ := hyx hj
    exact hx.pending hj' (ha'.trans ha)
  · obtain ⟨t', hj', ha'⟩ := hyx hj
    exact hx.settled hj' (ha'.trans ha)
  · rw [hd]
    exact hx.precedence

/-- A section begins. -/
theorem Sequenced.enter {order : List Commit} {x : World} (hx : Sequenced order x) {k : Nat} {s : Section}
    (hs : s.opened = x.time) (hk : (x.workers k).isOutside = true) :
    Sequenced order (x.act k (.inside s .entered)) := by
  have hpast : ∀ d ∈ x.done, d.opened ≠ s.opened := by
    intro d hd he
    have := hx.past _ (hx.of_done d hd)
    omega
  refine ⟨fun c hc => Nat.lt_succ_of_lt (hx.past c hc), hx.nodup, hx.done_nodup, hx.of_done, fun c hc => ?_,
    fun {j s' t} hj => ?_, fun {j s₁ t₁ j' s₂ t₂} h₁ h₂ he => ?_, fun {j s' t} hj ha => ?_,
    fun {j s' t later v} hj ha => ?_, hx.precedence⟩
  · rcases hx.of_mem c hc with h | ⟨j, s', t, later, v, hj, ha, he⟩
    · exact .inl h
    · refine .inr ⟨j, s', t, later, v, ?_, ha, he⟩
      rw [act_workers, if_neg fun hjk : j = k => Activity.ne_inside hk s' t (hjk ▸ hj)]
      exact hj
  · rcases inside_of_act hj with ⟨-, he⟩ | ⟨-, hj'⟩
    · cases he
      exact ⟨by rw [hs]; exact Nat.lt_succ_self _, hpast⟩
    · exact ⟨Nat.lt_succ_of_lt (hx.begun hj').1, (hx.begun hj').2⟩
  · rcases inside_of_act h₁ with ⟨rfl, e₁⟩ | ⟨-, g₁⟩
    · rcases inside_of_act h₂ with ⟨rfl, -⟩ | ⟨-, g₂⟩
      · rfl
      · cases e₁
        have := (hx.begun g₂).1
        omega
    · rcases inside_of_act h₂ with ⟨rfl, e₂⟩ | ⟨-, g₂⟩
      · cases e₂
        have := (hx.begun g₁).1
        omega
      · exact hx.own g₁ g₂ he
  · rcases inside_of_act hj with ⟨-, he⟩ | ⟨-, hj'⟩
    · cases he
      intro c hc he
      have := hx.past c hc
      omega
    · exact hx.pending hj' ha
  · rcases inside_of_act hj with ⟨-, he⟩ | ⟨-, hj'⟩
    · cases he
      cases ha
    · exact hx.settled hj' ha

/-- A section takes effect. -/
theorem Sequenced.commit {order : List Commit} {x y : World} (hx : Sequenced order x) {k : Nat} {s : Section}
    {t t' : Stage} {later : Nat} {v : Verdict} (hk : x.workers k = .inside s t) (ha : t.answer? = none)
    (ha' : t'.answer? = some (later, v)) (ht : y.time = x.time + 1) (hd : y.done = x.done)
    (hw : y.workers = (x.act k (.inside s t')).workers) : Sequenced (order ++ [s.commit later v]) y := by
  obtain ⟨hbegun, hnew⟩ := hx.begun hk
  refine ⟨fun c hc => ?_, ?_, by rw [hd]; exact hx.done_nodup, fun d h => ?_, fun c hc => ?_, fun {j s' u} hj => ?_,
    fun {j s₁ u₁ j' s₂ u₂} h₁ h₂ he => ?_, fun {j s' u} hj hu => ?_, fun {j s' u later' v'} hj hu => ?_, ?_⟩
  · rcases List.mem_append.1 hc with hc | hc
    · have := hx.past c hc
      omega
    · obtain rfl := List.mem_singleton.1 hc
      have : (s.commit later v).opened = s.opened := rfl
      omega
  · exact nodup_map_append_singleton hx.nodup (hx.pending hk ha)
  · rw [hd] at h
    exact List.mem_append_left _ (hx.of_done d h)
  · rw [hd]
    rcases List.mem_append.1 hc with hc | hc
    · rcases hx.of_mem c hc with h | ⟨j, s', u, later', v', hj, hu, he⟩
      · exact .inl h
      · refine .inr ⟨j, s', u, later', v', ?_, hu, he⟩
        rw [hw, act_workers, if_neg]
        · exact hj
        · rintro rfl
          rw [hk] at hj
          cases hj
          rw [ha] at hu
          cases hu
    · obtain rfl := List.mem_singleton.1 hc
      exact .inr ⟨k, s, t', later, v, by rw [hw, act_workers, if_pos rfl], ha', rfl⟩
  · obtain ⟨u', hu'⟩ := inside_before hk hw hj
    rw [ht, hd]
    exact ⟨Nat.lt_succ_of_lt (hx.begun hu').1, (hx.begun hu').2⟩
  · obtain ⟨u₁', g₁⟩ := inside_before hk hw h₁
    obtain ⟨u₂', g₂⟩ := inside_before hk hw h₂
    exact hx.own g₁ g₂ he
  · rcases inside_of_goOn hw hj with ⟨rfl, rfl, rfl⟩ | ⟨hne, hj'⟩
    · rw [ha'] at hu
      cases hu
    · intro c hc
      rcases List.mem_append.1 hc with hc | hc
      · exact hx.pending hj' hu c hc
      · obtain rfl := List.mem_singleton.1 hc
        exact fun he => hne (hx.own hk hj' he).symm
  · rcases inside_of_goOn hw hj with ⟨rfl, rfl, rfl⟩ | ⟨-, hj'⟩
    · rw [ha'] at hu
      cases hu
      exact List.mem_append_right _ (List.mem_singleton.2 rfl)
    · exact List.mem_append_left _ (hx.settled hj' hu)
  -- the section is not over, and so it need not come before any other job
  · rw [hd, List.pairwise_append]
    refine ⟨hx.precedence, List.pairwise_singleton _ _, fun b hb c hc d hdone he => ?_⟩
    obtain rfl := List.mem_singleton.1 hc
    exact absurd (congrArg Commit.opened he) (hnew d hdone)

/-- A section ends. -/
theorem Sequenced.leave {order : List Commit} {x : World} (hx : Sequenced order x) {k : Nat} {s : Section}
    {later : Nat} {v : Verdict} (hk : x.workers k = .inside s (.settled later v)) :
    Sequenced order ((x.act k .idle).finish ⟨s.commit later v, x.time⟩) := by
  have hinside : ∀ {j s' t}, (x.act k .idle).workers j = .inside s' t → j ≠ k ∧ x.workers j = .inside s' t := by
    intro j s' t h
    rcases inside_of_act h with ⟨-, he⟩ | hj
    · cases he
    · exact hj
  have hdone : ∀ {d}, d ∈ x.done ++ [(⟨s.commit later v, x.time⟩ : Outcome)] →
      d ∈ x.done ∨ d = ⟨s.commit later v, x.time⟩ := fun h => by simpa using h
  refine ⟨fun c hc => Nat.lt_succ_of_lt (hx.past c hc), hx.nodup, ?_, fun d hd => ?_, fun c hc => ?_,
    fun {j s' t} hj => ?_, fun h₁ h₂ he => hx.own (hinside h₁).2 (hinside h₂).2 he,
    fun hj ha => hx.pending (hinside hj).2 ha, fun hj ha => hx.settled (hinside hj).2 ha, ?_⟩
  · exact nodup_map_append_singleton hx.done_nodup (hx.begun hk).2
  · rcases hdone hd with hd | rfl
    · exact hx.of_done d hd
    · exact hx.settled hk rfl
  · rcases hx.of_mem c hc with ⟨d, hd, he⟩ | ⟨j, s', t, later', v', hj, ha, he⟩
    · exact .inl ⟨d, List.mem_append_left _ hd, he⟩
    · by_cases hjk : j = k
      · subst hjk
        rw [hk] at hj
        cases hj
        cases ha
        exact .inl ⟨⟨s.commit later v, x.time⟩, List.mem_append_right _ (List.mem_singleton.2 rfl), he⟩
      · refine .inr ⟨j, s', t, later', v', ?_, ha, he⟩
        show (x.act k .idle).workers j = _
        rw [act_workers, if_neg hjk]
        exact hj
  · obtain ⟨hne, hj'⟩ := hinside hj
    refine ⟨Nat.lt_succ_of_lt (hx.begun hj').1, fun d hd => ?_⟩
    rcases hdone hd with hd | rfl
    · exact (hx.begun hj').2 d hd
    · exact fun he => hne (hx.own hk hj' he).symm
  -- whatever has taken effect began before the section ended
  · refine hx.precedence.imp_of_mem fun {b c} hb _ hbc d hd he => ?_
    rcases hdone hd with hd | rfl
    · exact hbc d hd he
    · exact Nat.le_of_lt (hx.past b hb)

/-- A job takes effect and is over in one step. -/
theorem Sequenced.atomic {order : List Commit} {x y : World} (hx : Sequenced order x) {job : Job}
    {answer : Option Verdict} (ht : y.time = x.time + 1) (hd : y.done = x.done ++ [⟨⟨x.time, job, answer⟩, x.time⟩])
    (hw : ∀ j s t, y.workers j = .inside s t ↔ x.workers j = .inside s t) :
    Sequenced (order ++ [⟨x.time, job, answer⟩]) y := by
  have hmem : ∀ {c}, c ∈ order ++ [(⟨x.time, job, answer⟩ : Commit)] → c ∈ order ∨ c = ⟨x.time, job, answer⟩ :=
    fun h => by simpa using h
  have hdone : ∀ {d}, d ∈ y.done → d ∈ x.done ∨ d = ⟨⟨x.time, job, answer⟩, x.time⟩ := by
    intro d h
    rw [hd] at h
    simpa using h
  refine ⟨fun c hc => ?_, ?_, ?_, fun d h => ?_, fun c hc => ?_, fun {j s t} hj => ?_,
    fun h₁ h₂ he => hx.own ((hw _ _ _).1 h₁) ((hw _ _ _).1 h₂) he, fun {j s t} hj ha c hc => ?_,
    fun hj ha => List.mem_append_left _ (hx.settled ((hw _ _ _).1 hj) ha), ?_⟩
  · rw [ht]
    rcases hmem hc with hc | rfl
    · exact Nat.lt_succ_of_lt (hx.past c hc)
    · exact Nat.lt_succ_self _
  · exact nodup_map_append_singleton hx.nodup fun c hc => Nat.ne_of_lt (hx.past c hc)
  · rw [hd]
    exact nodup_map_append_singleton hx.done_nodup fun d h => Nat.ne_of_lt (hx.past _ (hx.of_done d h))
  · rcases hdone h with h | rfl
    · exact List.mem_append_left _ (hx.of_done d h)
    · exact List.mem_append_right _ (List.mem_singleton.2 rfl)
  · rw [hd]
    rcases hmem hc with hc | rfl
    · rcases hx.of_mem c hc with ⟨d, hdd, he⟩ | ⟨j, s, t, later, v, hj, ha, he⟩
      · exact .inl ⟨d, List.mem_append_left _ hdd, he⟩
      · exact .inr ⟨j, s, t, later, v, (hw _ _ _).2 hj, ha, he⟩
    · exact .inl ⟨_, List.mem_append_right _ (List.mem_singleton.2 rfl), rfl⟩
  · obtain ⟨hbegun, hnew⟩ := hx.begun ((hw _ _ _).1 hj)
    refine ⟨by omega, fun d h => ?_⟩
    rcases hdone h with h | rfl
    · exact hnew d h
    · exact (Nat.ne_of_lt hbegun).symm
  · rcases hmem hc with hc | rfl
    · exact hx.pending ((hw _ _ _).1 hj) ha c hc
    · exact (Nat.ne_of_lt (hx.begun ((hw _ _ _).1 hj)).1).symm
  · rw [List.pairwise_append]
    refine ⟨hx.precedence.imp_of_mem fun {b c} _ hc hbc d h he => ?_, List.pairwise_singleton _ _,
      fun b hb c hc d h he => ?_⟩
    · rcases hdone h with h | rfl
      · exact hbc d h he
      · exact absurd (congrArg Commit.opened he) (Nat.ne_of_lt (hx.past c hc)).symm
    · obtain rfl := List.mem_singleton.1 hc
      rcases hdone h with h | rfl
      · exact absurd (congrArg Commit.opened he) (Nat.ne_of_lt (hx.past _ (hx.of_done d h)))
      · exact Nat.le_of_lt (hx.past b hb)

/-- When nobody is in a section, the jobs that have taken effect are over. -/
theorem Sequenced.perm {order : List Commit} {x : World} (h : Sequenced order x) (hfree : ∀ i, ¬ x.Locked i) :
    order.Perm (x.done.map (·.toCommit)) := by
  have hdone : (x.done.map (·.toCommit)).Nodup := List.Nodup.of_map (·.opened) (by
    rw [List.map_map]
    exact h.done_nodup)
  refine (List.perm_ext_iff_of_nodup (List.Nodup.of_map _ h.nodup) hdone).2 fun c => ⟨fun hc => ?_, fun hc => ?_⟩
  · rcases h.of_mem c hc with ⟨d, hd, rfl⟩ | ⟨k, s, t, -, -, hk, -⟩
    · exact List.mem_map.2 ⟨d, hd, rfl⟩
    · exact absurd ⟨k, s, t, hk, rfl⟩ (hfree _)
  · obtain ⟨d, hd, rfl⟩ := List.mem_map.1 hc
    exact h.of_done d hd

end ChatModeration.Moderation
