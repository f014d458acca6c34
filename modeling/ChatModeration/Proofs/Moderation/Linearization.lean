import ChatModeration.Proofs.Moderation.Sections
import ChatModeration.Proofs.Moderation.Sequence
import Mathlib.Data.List.Perm.Basic

/-!
# Checks side by side are checks one at a time

Whatever workers, sweeps and changes of the snapshot do in whatever order, the records and all verdicts are those of
the same jobs done one at a time, in an order in which a job that was over before another one began comes first
(`linearizable`).
-/

namespace ChatModeration.Moderation

open Store (Shard SameElsewhere)

/-- What the jobs that have taken effect have done, one at a time. -/
structure Linearized (r : Records) (order : List Commit) (a : Records) (x : World) : Prop where
  run : r.performAll (order.map (·.job)) = (a, order.map (·.answer))
  refines : Refines a x
  sequenced : Sequenced order x

theorem linearized_start (r : Records) (snapshot : Snapshot) : Linearized r [] r (.start r snapshot) := by
  refine ⟨rfl, ⟨rfl, .refl _, fun _ _ => rfl, ?_, ?_, ?_⟩, sequenced_start r snapshot⟩
  all_goals simp [World.start]

theorem performAll_commit {r a b : Records} {order : List Commit} {c : Commit}
    (h : r.performAll (order.map (·.job)) = (a, order.map (·.answer))) (hc : a.perform c.job = (b, c.answer)) :
    r.performAll ((order ++ [c]).map (·.job)) = (b, (order ++ [c]).map (·.answer)) := by
  rw [List.map_append, List.map_append, List.map_singleton, List.map_singleton, performAll_append, h, hc]

theorem Linearized.pass {r a : Records} {order : List Commit} {x y : World} (h : Linearized r order a x)
    (ht : y.time = x.time + 1) (hd : y.done = x.done) (hr : y.records = x.records)
    (hw : ∀ j s t, y.workers j = .inside s t ↔ x.workers j = .inside s t) : Linearized r order a y := by
  refine ⟨h.run, h.refines.outside hw (by rw [hr]; exact h.refines.violations) rfl (by rw [hr]),
    h.sequenced.pass ht hd (fun {j s t} hj => ?_) (fun {j s t} hj => ?_)⟩
  · exact ⟨t, (hw j s t).1 hj, rfl⟩
  · exact ⟨t, (hw j s t).2 hj, rfl⟩

/-- A job that takes effect and is over in one step, while the history is left alone. -/
theorem Linearized.atomic {r a b : Records} {order : List Commit} {x y : World} (h : Linearized r order a x)
    {job : Job} {answer : Option Verdict} (hrun : a.perform job = (b, answer)) (ht : y.time = x.time + 1)
    (hd : y.done = x.done ++ [⟨⟨x.time, job, answer⟩, x.time⟩])
    (hw : ∀ j s t, y.workers j = .inside s t ↔ x.workers j = .inside s t) (hb : Refines b y) :
    Linearized r (order ++ [⟨x.time, job, answer⟩]) b y :=
  ⟨performAll_commit h.run hrun, hb, h.sequenced.atomic ht hd hw⟩

/-- A section goes on and does not take effect. -/
theorem Linearized.goOn {r a : Records} {order : List Commit} {x : World} (h : Linearized r order a x) {k : Nat}
    {s : Section} {t u : Stage} (hk : x.workers k = .inside s t) (ht : t.answer? = u.answer?) {history : History}
    (hh : SameElsewhere history x.records.history (x.shardOf s)) (hagrees : s.Agrees a.history history u) :
    Linearized r order a ((x.act k (.inside s u)).withHistory history) := by
  have hown : ((x.act k (.inside s u)).withHistory history).workers k = .inside s u := by
    show (x.act k (.inside s u)).workers k = _
    rw [act_workers, if_pos rfl]
  refine ⟨h.run, h.refines.inside hk rfl h.refines.violations (.refl _ _) hh hagrees,
    h.sequenced.pass rfl rfl (fun {j s' w} hj => ?_) (fun {j s' w} hj => ?_)⟩
  · rcases inside_of_act (x := x) hj with ⟨rfl, he⟩ | ⟨-, hj'⟩
    · cases he
      exact ⟨t, hk, ht⟩
    · exact ⟨w, hj', rfl⟩
  · by_cases hjk : j = k
    · subst hjk
      rw [hk] at hj
      cases hj
      exact ⟨u, hown, ht.symm⟩
    · refine ⟨w, ?_, rfl⟩
      show (x.act k (.inside s u)).workers j = _
      rw [act_workers, if_neg hjk]
      exact hj

/-- A section goes on and takes effect. -/
theorem Linearized.commit {r a : Records} {order : List Commit} {x : World} (h : Linearized r order a x) {k : Nat}
    {s : Section} {t u : Stage} {later : Nat} {v : Verdict} (hk : x.workers k = .inside s t)
    (ht : t.answer? = none) (hu : u.answer? = some (later, v)) {shard : Shard String (Fingerprint String)}
    {violations : ViolationRecords}
    (hrun : a.perform (s.job later) = (⟨s.replace a.history shard, violations⟩, some v))
    (hagrees : s.Agrees (s.replace a.history shard) x.records.history u) :
    Linearized r (order ++ [s.commit later v]) ⟨s.replace a.history shard, violations⟩
      ((x.act k (.inside s u)).withViolations violations) := by
  have hshard : SameElsewhere (s.replace a.history shard) a.history (x.shardOf s) := by
    rw [World.shardOf, ← h.refines.shape.shardIndex]
    exact Store.sameElsewhere_replaceShard a.history s.message.userId shard
  exact ⟨performAll_commit h.run hrun, h.refines.inside hk rfl rfl hshard (.refl _ _) hagrees,
    h.sequenced.commit hk ht hu rfl rfl rfl⟩

/-- An escalation in a section: whether or not there is a tier, the section takes effect. -/
theorem Linearized.punish {r a : Records} {order : List Commit} {x : World} (h : Linearized r order a x) {k : Nat}
    {s : Section} {p : Penalty} {later : Nat} {v : ViolationRecords} {tier : Option Punishment}
    (hk : x.workers k = .inside s (.violated p later))
    (he : s.spam.escalate p s.message.userId later x.records.violations = (v, tier)) :
    ∃ order' b, Linearized r order' b ((x.act k (.inside s (p.stage later tier))).withViolations v) := by
  obtain ⟨hs, hp⟩ : x.records.history.shardOf s.message.userId = s.pushedShard a.history ∧
    s.spam.penalty? (s.repeats a.history) = some p := h.refines.agrees hk
  have hfits := h.refines.fits hk
  rw [← h.refines.violations] at he
  have hpushed := Store.shardOf_replaceShard a.history s.message.userId (s.pushedShard a.history)
  cases tier with
  | none =>
    have hrun := Section.perform_pardon hfits hp he
    exact ⟨_, _, h.commit (u := .settled later .none) hk rfl rfl hrun (hs.trans hpushed.symm)⟩
  | some tier =>
    have hrun := Section.perform_punish hfits hp he
    rw [Section.punishedShard] at hrun
    rw [Penalty.stage]
    cases hc : p.clearsHistory with
    | true =>
      -- the jobs have cleared the history already, the section will clear it in its next step
      rw [hc, if_pos rfl, ← hs] at hrun
      exact ⟨_, _, h.commit (u := .clearing later _) hk rfl rfl hrun (Store.shardOf_replaceShard _ _ _)⟩
    | false =>
      rw [hc, if_neg Bool.false_ne_true] at hrun
      exact ⟨_, _, h.commit (u := .settled later _) hk rfl rfl hrun (hs.trans hpushed.symm)⟩

/-- What jobs one at a time have done before a step, they have done after it, perhaps with one more job. -/
theorem Linearized.step {r a : Records} {order : List Commit} {x y : World} (h : Linearized r order a x)
    (hxy : Step x y) : ∃ order' b, Linearized r order' b y := by
  have hr := h.refines
  -- outside of sections a step takes effect at once or not at all
  cases hxy with
  | swap snapshot => exact ⟨order, a, h.pass rfl rfl rfl fun _ _ _ => Iff.rfl⟩
  | load m hk => exact ⟨order, a, h.pass rfl rfl rfl (inside_act_iff (congrArg Activity.isOutside hk) rfl)⟩
  | inform w hk => exact ⟨order, a, h.pass rfl rfl rfl (inside_act_iff (congrArg Activity.isOutside hk) rfl)⟩
  | read now hk hv => exact ⟨order, a, h.pass rfl rfl rfl (inside_act_iff (congrArg Activity.isOutside hk) rfl)⟩
  | conclude hk hv =>
    have hw := inside_act_iff (a := .idle) (congrArg Activity.isOutside hk) rfl
    exact ⟨_, a, h.atomic (perform_conclude a 0 0 hv) rfl rfl hw (hr.outside hw hr.violations rfl rfl)⟩
  | @escalate k w m now position rule rules tier hk hf he =>
    have hw := inside_act_iff (a := .idle) (congrArg Activity.isOutside hk) rfl
    rw [← hr.violations] at he
    refine ⟨_, _, h.atomic (perform_rule now hf he) rfl rfl hw (hr.outside hw ?_ rfl rfl)⟩
    show { a.violations with rules } = { x.records.violations with rules }
    rw [hr.violations]
  | @enter k w m now spam hk hf hlock =>
    have hout : (x.workers k).isOutside = true := congrArg Activity.isOutside hk
    exact ⟨order, a, h.run, hr.enter (s := ⟨x.time, w, m, now, spam⟩) hf hout hlock, h.sequenced.enter rfl hout⟩
  | @count k s hk =>
    have hs : x.records.history.shardOf s.message.userId = a.history.shardOf s.message.userId := hr.agrees hk
    refine ⟨order, a, h.goOn (u := .counted _) hk rfl (.refl _ _) ⟨hs, ?_⟩⟩
    rw [Section.repeats, Store.items, Store.items, hs]
  | @push k s n hk =>
    obtain ⟨hs, hn⟩ : x.records.history.shardOf s.message.userId = a.history.shardOf s.message.userId ∧
      n = s.repeats a.history := hr.agrees hk
    refine ⟨order, a, h.goOn (u := .pushed n) hk rfl (Store.sameElsewhere_replaceShard _ _ _) ⟨?_, hn⟩⟩
    rw [Section.pushedShard, Section.entry, ← hs, hr.shape.horizon]
    exact Store.shardOf_replaceShard _ _ _
  -- there is nothing to punish, and so the section takes effect
  | @acquit k s n hk hp =>
    obtain ⟨hs, hn⟩ : x.records.history.shardOf s.message.userId = s.pushedShard a.history ∧
      n = s.repeats a.history := hr.agrees hk
    have hrun := Section.perform_acquit (hr.fits hk) a s.now (hn ▸ hp)
    rw [hr.violations] at hrun
    have hown := Store.shardOf_replaceShard a.history s.message.userId (s.pushedShard a.history)
    exact ⟨_, _, h.commit (u := .settled s.now .none) hk rfl rfl hrun (hs.trans hown.symm)⟩
  | @convict k s n p later hk hp =>
    obtain ⟨hs, hn⟩ : x.records.history.shardOf s.message.userId = s.pushedShard a.history ∧
      n = s.repeats a.history := hr.agrees hk
    exact ⟨order, a, h.goOn (u := .violated p later) hk rfl (.refl _ _) ⟨hs, hn ▸ hp⟩⟩
  | punish hk he => exact h.punish hk he
  | @clear k s later v hk =>
    have hs : a.history.shardOf s.message.userId =
      ((x.records.history.shardOf s.message.userId).clear s.message.userId).1 := hr.agrees hk
    refine ⟨order, a, h.goOn (u := .settled later v) hk rfl (Store.sameElsewhere_replaceShard _ _ _) ?_⟩
    exact (Store.shardOf_replaceShard _ _ _).trans hs.symm
  | leave hk =>
    refine ⟨order, a, h.run, ?_, h.sequenced.leave hk⟩
    exact (hr.leave hk).outside (fun _ _ _ => Iff.rfl) hr.violations rfl rfl
  | sweep now index part hlock =>
    refine ⟨_, a.sweep now index part, h.atomic rfl rfl rfl (fun _ _ _ => Iff.rfl) ?_⟩
    cases part with
    | history => exact (hr.sweepHistory now (hlock rfl)).outside (fun _ _ _ => Iff.rfl) hr.violations rfl rfl
    | _ => exact hr.outside (fun _ _ _ => Iff.rfl) (by simp only [Records.sweep, hr.violations, World.finish]) rfl rfl

theorem Reachable.linearized {r : Records} {snapshot : Snapshot} {x : World} (h : Reachable r snapshot x) :
    ∃ order a, Linearized r order a x := by
  induction h with
  | start => exact ⟨[], r, linearized_start r snapshot⟩
  | step _ hxy ih =>
    obtain ⟨order, a, hx⟩ := ih
    exact hx.step hxy

/-- No two workers hold the same shard of the history. -/
theorem Reachable.exclusive {r : Records} {snapshot : Snapshot} {x : World} (h : Reachable r snapshot x)
    {k k' : Nat} {s s' : Section} {t t' : Stage} (hk : x.workers k = .inside s t)
    (hk' : x.workers k' = .inside s' t') (he : x.shardOf s = x.shardOf s') : k = k' := by
  obtain ⟨order, a, hx⟩ := h.linearized
  exact hx.refines.exclusive hk hk' he

/-- When nobody is in a section, the records are those of the jobs that have taken effect. -/
theorem Refines.records_eq {a : Records} {x : World} (h : Refines a x) (hfree : ∀ i, ¬ x.Locked i) :
    a = x.records := by
  have hhistory : a.history = x.records.history := h.shape.eq fun i => h.unlocked i (hfree i)
  have hviolations := h.violations
  cases a
  cases hr : x.records
  rw [hr] at hhistory hviolations
  cases hhistory
  cases hviolations
  rfl

/--
When nobody is in a section, the jobs that are over, done one at a time in some order, have the same answers and leave
the same records.  Jobs that did not overlap, like the sections of one user, keep their order.
-/
theorem linearizable {r : Records} {snapshot : Snapshot} {x : World} (h : Reachable r snapshot x)
    (hfree : ∀ i, ¬ x.Locked i) :
    ∃ order : List Outcome, order.Perm x.done ∧ order.Pairwise (fun b c => ¬ c.closed < b.opened) ∧
      r.performAll (order.map (·.job)) = (x.records, order.map (·.answer)) := by
  obtain ⟨commits, a, hrun, hrefines, hseq⟩ := h.linearized
  -- every job that has taken effect is the job of an outcome
  have hlift : List.Forall₂ (fun c (d : Outcome) => d.toCommit = c) (x.done.map (·.toCommit)) x.done := by
    rw [List.forall₂_map_left_iff]
    exact List.forall₂_same.2 fun _ _ => rfl
  obtain ⟨order, hsame, hperm⟩ := List.perm_comp_forall₂ (hseq.perm hfree) hlift
  have hcommits : order.map (·.toCommit) = commits := by
    rw [← List.forall₂_eq_eq_eq, List.forall₂_map_left_iff]
    exact hsame.flip
  subst hcommits
  refine ⟨order, hperm, ?_, ?_⟩
  · refine (List.pairwise_map.1 hseq.precedence).imp_of_mem fun {b c} _ hc hbc => ?_
    exact Nat.not_lt.2 (hbc c (hperm.mem_iff.1 hc) rfl)
  · rw [List.map_map, List.map_map, hrefines.records_eq hfree] at hrun
    exact hrun

/-! ### Two workers -/

/--
A broadcaster's message is checked, and a store is swept, while the same message of another user is in a section that
ends with a punishment.
-/
theorem reachable_interleaved : ∃ x : World, Reachable emptyRecords strictSurroundings.snapshot x ∧
    (∀ k, (x.workers k).isOutside = true) ∧
      x.done.map (·.answer) = [none, some .none, some (.ofPunishment .delete "repeated messages")] := by
  have h₁ : Reachable emptyRecords strictSurroundings.snapshot _ := .step .start (.load (k := 0) (greeting {}) rfl)
  have h₂ := h₁.step (.load (k := 1) (greeting { broadcaster := true }) rfl)
  have h₃ := h₂.step (.inform (k := 0) strictSurroundings rfl)
  have h₄ := h₃.step (.inform (k := 1) strictSurroundings rfl)
  have h₅ := h₄.step (.read (k := 0) 5 rfl rfl)
  have hfind : (find strictSurroundings (greeting {})).1 = .watched strictCase := rfl
  have h₆ := h₅.step (.enter (k := 0) rfl hfind (World.not_locked (fun
    | 0 => rfl
    | 1 => rfl
    | _ + 2 => rfl) _))
  have h₇ := h₆.step (.count (k := 0) rfl)
  have h₈ := h₇.step (.sweep 9 0 .rules nofun)
  have h₉ := h₈.step (.conclude (k := 1) rfl rfl)
  have h₁₀ := h₉.step (.push (k := 0) rfl)
  have h₁₁ := h₁₀.step (.convict (k := 0) 3 rfl (strictCase_penalty _))
  have h₁₂ := h₁₁.step (.punish (k := 0) rfl (show SpamCase.escalate _ _ _ _ _ = (_, some .delete) from rfl))
  have h₁₃ := h₁₂.step (.clear (k := 0) rfl)
  have h₁₄ := h₁₃.step (.leave (k := 0) rfl)
  refine ⟨_, h₁₄, fun k => ?_, rfl⟩
  match k with
  | 0 => rfl
  | 1 => rfl
  | _ + 2 => rfl

theorem linearizable_interleaved : ∃ x : World, Reachable emptyRecords strictSurroundings.snapshot x ∧
    (∀ i, ¬ x.Locked i) ∧ x.done.length = 3 ∧
      ∃ order : List Outcome, order.Perm x.done ∧ order.Pairwise (fun b c => ¬ c.closed < b.opened) ∧
        emptyRecords.performAll (order.map (·.job)) = (x.records, order.map (·.answer)) := by
  obtain ⟨x, hx, hout, hanswers⟩ := reachable_interleaved
  have hfree := World.not_locked hout
  have hlength := congrArg List.length hanswers
  rw [List.length_map] at hlength
  exact ⟨x, hx, hfree, hlength, linearizable hx hfree⟩

end ChatModeration.Moderation
