import ChatModeration.Proofs.Moderation.Counting
import ChatModeration.Proofs.Moderation.Runs

/-!
# Messages that are far apart

A user who says similar things only after enough other things is never punished for a repetition
(`tolerated_of_spacedOut`).  The items of a user expire in the order in which they were put in, so that a sweep only
ever removes the oldest ones (`filter_isSuffix`), and what is left in the history is the end of what the user has said.
-/

namespace ChatModeration.Moderation

open Store (Line)

/-- What a property that never gets lost selects is the end of a list. -/
theorem filter_isSuffix {α : Type} {p : α → Bool} {l : List α} (h : l.Pairwise fun a b => p a = true → p b = true) :
    l.filter p <:+ l := by
  induction l with
  | nil => exact List.suffix_refl _
  | cons a l ih =>
    obtain ⟨ha, hl⟩ := List.pairwise_cons.1 h
    cases hp : p a with
    | false =>
      rw [List.filter_cons_of_neg (by simp [hp])]
      exact (ih hl).trans (List.suffix_cons a l)
    | true =>
      have hall : ∀ b ∈ a :: l, p b = true := by
        intro b hb
        rcases List.mem_cons.1 hb with rfl | hb
        · exact hp
        · exact ha b hb hp
      exact ⟨[], List.filter_eq_self.2 hall⟩

/-- What happens without a message of a user leaves the end of the history of the user, if that is in order. -/
theorem Event.remembered_isSuffix {e : Event} {b : Books} (h : e.before.Represents b) {user : String}
    (hc : e.job.case? user = none) (hsorted : (e.before.remembered user).Pairwise (·.expiresAt ≤ ·.expiresAt)) :
    e.after.remembered user <:+ e.before.remembered user := by
  cases e with
  | mk r job =>
    cases job with
    | check w now later m =>
      exact ⟨[], h.remembered_of_no_case hc⟩
    | sweep now index part =>
      rw [after, Records.perform, h.remembered_sweep]
      split
      · refine filter_isSuffix (hsorted.imp fun hle hlt => ?_)
        rw [decide_eq_true_eq] at hlt ⊢
        exact Nat.lt_of_lt_of_le hlt hle
      · exact List.suffix_refl _

/-! ### What a user says -/

/-- The clock at the check of a message of a user. -/
def Job.clock? (user : String) : Job → Option Nat
  | .check _ now _ m => if m.userId = user then some now else none
  | .sweep .. => none

/-- A message of a user as it stands in the history, if a job is the check of a message that is compared with it. -/
def Job.line? (user : String) (job : Job) : Option (Line String (Fingerprint String)) :=
  (job.case? user).bind fun c => (job.clock? user).map (c.line user)

theorem Job.map_payload_line? (user : String) (job : Job) :
    (job.line? user).map (·.payload) = job.said? user := by
  cases job with
  | sweep now index part => rfl
  | check w now later m =>
    by_cases hu : m.userId = user
    · rw [line?, said?, clock?, if_pos hu]
      cases (Job.check w now later m).case? user <;> rfl
    · rw [line?, said?, case?, if_neg hu]
      rfl

/-- A user writes text in some jobs, under one policy. -/
structure Chatting (settings : SpamProfile) (user : String) (jobs : List Job) : Prop where
  text : ∀ job ∈ jobs, job.sender? = some user →
    ∃ c, job.case? user = some c ∧ c.IsText ∧ c.profile.settings = settings
  /-- The clock does not go back. -/
  clock : (jobs.filterMap (Job.clock? user)).Pairwise (· ≤ ·)
  /-- The clock can show when the messages expire. -/
  horizon : ∀ now ∈ jobs.filterMap (Job.clock? user),
    now + min settings.historyLife Store.longestLife ≤ Store.wordHorizon

/-- Whether each text comes only after enough others that it does not resemble, whenever it has come before. -/
def SpacedOut (settings : SpamProfile) (texts : List (Fingerprint String)) : Prop :=
  ∀ before f after, texts = before ++ f :: after →
    Spaced settings.minGap ((before ++ [f]).map (isSimilar settings.similarityThreshold f))

theorem SpacedOut.of_append {settings : SpamProfile} {texts others : List (Fingerprint String)}
    (h : SpacedOut settings (texts ++ others)) : SpacedOut settings texts := by
  rintro before f after rfl
  exact h before f (after ++ others) (by simp only [List.append_assoc, List.cons_append])

/-- Of texts that are spaced out the last one repeats nothing that is left in the history. -/
theorem repeats_le_one {c : SpamCase} (hgap : 1 ≤ c.profile.settings.minGap) {texts : List (Fingerprint String)}
    (hspaced : SpacedOut c.profile.settings (texts ++ [c.fingerprint])) {history : List (Fingerprint String)}
    (hhistory : history <:+ texts) : c.repeats history ≤ 1 := by
  obtain ⟨forgotten, rfl⟩ := hhistory
  have hall := hspaced (forgotten ++ history) c.fingerprint [] rfl
  rw [List.append_assoc, List.map_append] at hall
  exact countSimilar_le_one hgap hall.of_append.2

/-- Whether some texts, one more than the gap asks for and no two of them alike, come in turns. -/
structure Cycles (settings : SpamProfile) (cycle texts : List (Fingerprint String)) : Prop where
  length : cycle.length = settings.minGap + 1
  distinct : cycle.Pairwise fun f g =>
    isSimilar settings.similarityThreshold f g = false ∧ isSimilar settings.similarityThreshold g f = false
  turns : ∀ i < texts.length, texts[i]? = cycle[i % cycle.length]?

namespace Cycles

variable {settings : SpamProfile} {cycle texts : List (Fingerprint String)}

/-- What is similar stands at the same place of the cycle. -/
theorem mod_eq (h : Cycles settings cycle texts) {i j : Nat} {f g : Fingerprint String} (hf : texts[i]? = some f)
    (hg : texts[j]? = some g) (hsimilar : isSimilar settings.similarityThreshold f g = true) :
    i % cycle.length = j % cycle.length := by
  have hf' := (h.turns i (List.getElem?_eq_some_iff.1 hf).1).symm.trans hf
  have hg' := (h.turns j (List.getElem?_eq_some_iff.1 hg).1).symm.trans hg
  obtain ⟨hi, rfl⟩ := List.getElem?_eq_some_iff.1 hf'
  obtain ⟨hj, rfl⟩ := List.getElem?_eq_some_iff.1 hg'
  have hdistinct := List.pairwise_iff_getElem.1 h.distinct
  rcases Nat.lt_trichotomy (i % cycle.length) (j % cycle.length) with hlt | heq | hgt
  · rw [(hdistinct _ _ hi hj hlt).1] at hsimilar
    cases hsimilar
  · exact heq
  · rw [(hdistinct _ _ hj hi hgt).2] at hsimilar
    cases hsimilar

/-- Texts that come in turns are as far apart as there are others. -/
theorem spacedOut (h : Cycles settings cycle texts) : SpacedOut settings texts := by
  rintro before f after rfl left between right hsplit -
  have hsame : ∀ i, ((before ++ [f]).map (isSimilar settings.similarityThreshold f))[i]? = some true →
      before.length % cycle.length = i % cycle.length := by
    intro i hi
    rw [List.getElem?_map] at hi
    obtain ⟨g, hg, hsimilar⟩ := Option.map_eq_some_iff.1 hi
    have hlt : i < (before ++ [f]).length := (List.getElem?_eq_some_iff.1 hg).1
    exact h.mod_eq (by simp) (by rw [List.append_cons, List.getElem?_append_left hlt, hg]) hsimilar
  have hi := hsame left.length (by rw [hsplit]; simp)
  have hj := hsame (left.length + (between.length + 1)) (by rw [hsplit]; simp)
  have hdvd : cycle.length ∣ left.length + (between.length + 1) - left.length :=
    Nat.dvd_of_mod_eq_zero (Nat.sub_mod_eq_zero_of_mod_eq (hj.symm.trans hi))
  rw [Nat.add_sub_cancel_left] at hdvd
  have hle := Nat.le_of_dvd (Nat.succ_pos _) hdvd
  rw [h.length] at hle
  exact Nat.le_of_succ_le_succ hle

end Cycles

/-- Whether nothing comes out of the checks of a user. -/
def Unpunished (user : String) (events : List Event) : Prop :=
  ∀ e ∈ events, e.job.sender? = some user → e.answer = some .none

namespace Chatting

variable {settings : SpamProfile} {user : String} {jobs : List Job}

theorem of_append {others : List Job} (h : Chatting settings user (jobs ++ others)) : Chatting settings user jobs := by
  have hclock := h.clock
  have hhorizon := h.horizon
  rw [List.filterMap_append] at hclock hhorizon
  exact ⟨fun job hm => h.text job (List.mem_append_left _ hm), (List.pairwise_append.1 hclock).1,
    fun now hm => hhorizon now (List.mem_append_left _ hm)⟩

/-- The messages of the user expire in the order in which they are said. -/
theorem pairwise_expiresAt (h : Chatting settings user jobs) :
    (jobs.filterMap (Job.line? user)).Pairwise (·.expiresAt ≤ ·.expiresAt) := by
  have hclock := h.clock
  rw [List.pairwise_filterMap] at hclock ⊢
  -- the line of a job that is a check of a message of the user, and the clock at the check
  have hexpires : ∀ job ∈ jobs, ∀ line ∈ job.line? user, ∃ now ∈ job.clock? user,
      line.expiresAt = now + min settings.historyLife Store.longestLife := by
    intro job hm line hline
    obtain ⟨c, hc, hmap⟩ := Option.bind_eq_some_iff.1 hline
    obtain ⟨now, hnow, rfl⟩ := Option.map_eq_some_iff.1 hmap
    have hsender : job.sender? = some user := by
      obtain ⟨w, t, later, m, rfl, rfl, -⟩ := Job.case?_eq_some hc
      rfl
    obtain ⟨c', hc', -, hsettings⟩ := h.text job hm hsender
    obtain rfl := Option.some.inj (hc.symm.trans hc')
    refine ⟨now, hnow, ?_⟩
    have hrange := h.horizon now (List.mem_filterMap.2 ⟨job, hm, hnow⟩)
    rw [SpamCase.line, hsettings, Store.expiry]
    dsimp only
    rw [if_pos hrange]
  refine hclock.imp_of_mem fun {x y} hx hy hle l hl k hk => ?_
  obtain ⟨s, hs, hls⟩ := hexpires x hx l hl
  obtain ⟨t, ht, hkt⟩ := hexpires y hy k hk
  rw [hls, hkt]
  exact Nat.add_le_add_right (hle s hs t ht) _

/-- What is left in the history is the end of what the user has said, and nothing has been punished. -/
theorem remembered_isSuffix (h : Chatting settings user jobs) (hgap : 1 ≤ settings.minGap)
    (hlimit : 2 ≤ settings.messageLimit) (hspaced : SpacedOut settings (jobs.filterMap (Job.said? user)))
    {r : Records} {b : Books} (hr : r.Represents b) (hempty : r.history.count user = 0) :
    (r.performAll jobs).1.remembered user <:+ jobs.filterMap (Job.line? user) ∧
      Unpunished user (r.events jobs) := by
  -- from the end of the run, so that the last job finds what the others have left
  induction jobs using List.reverseRecOn with
  | nil =>
    have hnone : r.remembered user = [] := List.eq_nil_of_length_eq_zero (hr.length_remembered user ▸ hempty)
    exact ⟨by rw [Records.performAll, hnone]; exact List.nil_suffix, List.forall_mem_nil _⟩
  | append_singleton jobs job ih =>
    have hspaced' := hspaced
    rw [List.filterMap_append] at hspaced'
    obtain ⟨hsuffix, hanswers⟩ := ih h.of_append hspaced'.of_append
    have hsorted := h.of_append.pairwise_expiresAt.sublist hsuffix.sublist
    obtain ⟨e, rfl, hbefore, ⟨b', hb⟩, hevents, hafter⟩ := hr.events_append_singleton jobs job
    rw [← hbefore] at hsuffix hsorted
    rw [hevents, hafter, List.filterMap_append, filterMap_singleton, Unpunished, List.forall_mem_append,
      List.forall_mem_singleton]
    have htexts := h.text e.job (List.mem_append_right _ List.mem_cons_self)
    cases hc : e.job.case? user with
    | none =>
      rw [Job.line?, hc, Option.bind_none, Option.toList_none, List.append_nil]
      refine ⟨(e.remembered_isSuffix hb hc hsorted).trans hsuffix, hanswers, fun hsender => ?_⟩
      obtain ⟨c, hc', -⟩ := htexts hsender
      rw [hc] at hc'
      cases hc'
    | some c =>
      obtain ⟨w, now, later, m, hjob, hu, -, hsettle, hanswer⟩ := e.settle hb hc
      have hsender : e.job.sender? = some user := by rw [hjob, ← hu]; rfl
      obtain ⟨c', hc', htext, hsettings⟩ := htexts hsender
      obtain rfl := Option.some.inj (hc.symm.trans hc')
      have hline : e.job.line? user = some (c.line user now) := by
        rw [Job.line?, hc, Option.bind_some, hjob, Job.clock?, if_pos hu]
        rfl
      -- what the message is compared with is the end of what has been said
      have hhistory : (e.before.remembered user).map (·.payload) <:+ jobs.filterMap (Job.said? user) := by
        have hmap := hsuffix.map (·.payload)
        rwa [List.map_filterMap, funext (Job.map_payload_line? user)] at hmap
      have hrepeats : c.repeats ((e.before.remembered user).map (·.payload)) ≤ 1 := by
        rw [List.filterMap_append, filterMap_singleton, Job.said?, hc, ← hsettings] at hspaced
        exact repeats_le_one (hsettings ▸ hgap) hspaced hhistory
      have hsentence := htext.sentence? b' user
      rw [← hb.remembered, hsettings, if_pos (by omega)] at hsentence
      rw [Books.settle_acquit hsentence] at hsettle hanswer
      refine ⟨?_, hanswers, fun _ => hanswer⟩
      obtain ⟨forgotten, hforgotten⟩ := hsuffix
      refine ⟨forgotten, ?_⟩
      rw [hline, hsettle.remembered, Books.items_add, if_pos rfl, ← hb.remembered, ← List.append_assoc, hforgotten]
      rfl

end Chatting

/--
A user who says similar things only after enough other things is never punished, whatever is reclaimed in between and
whatever others say; so nobody is who says things in turns, one more than the gap asks for and no two of them alike.
The clock is one that can show when messages expire: the end of what it can show is ages away.
-/
theorem tolerated_of_spacedOut {r : Records} {b : Books} (hr : r.Represents b) {settings : SpamProfile}
    {user : String} {jobs : List Job} (h : Chatting settings user jobs) (hgap : 1 ≤ settings.minGap)
    (hlimit : 2 ≤ settings.messageLimit) (hempty : r.history.count user = 0) :
    (SpacedOut settings (jobs.filterMap (Job.said? user)) → Unpunished user (r.events jobs)) ∧
      ∀ cycle, Cycles settings cycle (jobs.filterMap (Job.said? user)) → Unpunished user (r.events jobs) :=
  ⟨fun hspaced => (h.remembered_isSuffix hgap hlimit hspaced hr hempty).2,
    fun _ hcycle => (h.remembered_isSuffix hgap hlimit hcycle.spacedOut hr hempty).2⟩

/-- Three words in turns, and a sweep in between. -/
def threeInTurns : List Job :=
  [.check twiceSurroundings 1 1 (saying "7" "one"), .check twiceSurroundings 2 2 (saying "7" "two"),
    .check twiceSurroundings 3 3 (saying "7" "three"), .sweep 30002 0 .history,
    .check twiceSurroundings 30003 30003 (saying "7" "one")]

theorem chatting_threeInTurns : Chatting twiceConfig.spam.standard "7" threeInTurns := by
  refine ⟨fun job hm hsender => ?_, by decide, by decide +kernel⟩
  have hcases : ∀ job ∈ threeInTurns, job.sender? = none ∨
      ∃ word ∈ ["one", "two", "three"],
        job.case? "7" = some (spamCase twiceSurroundings (saying "7" word) []).1 := by decide +kernel
  obtain hnone | ⟨word, -, hcase⟩ := hcases job hm
  · rw [hnone] at hsender
    cases hsender
  · exact ⟨_, hcase, ⟨rfl, rfl⟩, rfl⟩

theorem cycles_threeInTurns :
    Cycles twiceConfig.spam.standard (["one", "two", "three"].map fun word => .ofTokens [word])
      (threeInTurns.filterMap (Job.said? "7")) :=
  ⟨by decide, by decide +kernel, by decide +kernel⟩

theorem tolerated_of_spacedOut_threeInTurns :
    Chatting twiceConfig.spam.standard "7" threeInTurns ∧ 1 ≤ twiceConfig.spam.standard.minGap ∧
      2 ≤ twiceConfig.spam.standard.messageLimit ∧ emptyRecords.history.count "7" = 0 ∧
      Unpunished "7" (emptyRecords.events threeInTurns) := by
  have hempty : emptyRecords.history.count "7" = 0 := by decide +kernel
  have hr : emptyRecords.Represents ⟨[], [], [], [], []⟩ := represents_empty _ _
  exact ⟨chatting_threeInTurns, by decide, by decide, hempty,
    (tolerated_of_spacedOut hr chatting_threeInTurns (by decide) (by decide) hempty).2 _ cycles_threeInTurns⟩

end ChatModeration.Moderation
