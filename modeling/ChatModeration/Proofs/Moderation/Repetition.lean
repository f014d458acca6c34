import ChatModeration.Proofs.Config.Limits
import ChatModeration.Proofs.Moderation.Counting
import ChatModeration.Proofs.Moderation.Runs
import ChatModeration.Proofs.Similarity

/-!
# One text over and over

A user says one text over and over, and nothing of it is forgotten in between.  Then every message at which the limit of
the policy is reached again is punished, one tier higher each time, and the others are not (`punished_at_multiples`).
After each message the history holds what has been said since the last punishment (`Repeated`).
-/

namespace ChatModeration.Moderation

open Store (Ledger)

/-! ### Fingerprints of one text -/

/-- Whether a fingerprint has these tokens. -/
def HasWords (words : List String) (f : Fingerprint String) : Prop := f.tokens.Nodup ∧ ∀ t, t ∈ f.tokens ↔ t ∈ words

theorem isSimilar_of_hasWords {threshold : Binary64} (hle : threshold.le .one = true) {words : List String}
    (hne : words ≠ []) {f g : Fingerprint String} (hf : HasWords words f) (hg : HasWords words g) :
    isSimilar threshold f g = true := by
  have hsome : f.tokens ≠ [] := by
    obtain ⟨t, ht⟩ := List.exists_mem_of_ne_nil words hne
    exact List.ne_nil_of_mem ((hf.2 t).2 ht)
  rw [isSimilar, Fingerprint.similarity_eq_one hf.1 hg.1 (fun t => (hf.2 t).trans (hg.2 t).symm) hsome]
  exact hle

/-- In a history of one text all messages are repeats. -/
theorem repeats_of_hasWords {c : SpamCase} (hle : c.profile.settings.similarityThreshold.le .one = true)
    {words : List String} (hne : words ≠ []) (hc : HasWords words c.fingerprint) {history : List (Fingerprint String)}
    (hall : ∀ f ∈ history, HasWords words f) : c.repeats history = history.length + 1 := by
  have hsimilar : (history ++ [c.fingerprint]).map
      (isSimilar c.profile.settings.similarityThreshold c.fingerprint) = .replicate (history.length + 1) true := by
    rw [List.eq_replicate_iff]
    refine ⟨by simp, fun similar hmem => ?_⟩
    obtain ⟨f, hf, rfl⟩ := List.mem_map.1 hmem
    refine isSimilar_of_hasWords hle hne hc ?_
    rcases List.mem_append.1 hf with hf | hf
    · exact hall f hf
    · exact List.mem_singleton.1 hf ▸ hc
  rw [SpamCase.repeats, countRepeats, hsimilar, countSimilar_replicate]

/-! ### What repetitions leave behind -/

/-- What is left after a text has been said `n` times, where `p` violations had counted before. -/
structure Repeated (settings : SpamProfile) (words : List String) (user : String) (p n : Nat) (r : Records) : Prop where
  words : ∀ line ∈ r.remembered user, HasWords words line.payload
  /-- What has been said since the last punishment. -/
  count : r.history.count user = n % settings.messageLimit
  /-- One violation for each punishment. -/
  violations : r.violations.spam.priorCount user = p + n / settings.messageLimit

/-- Whether this is the verdict on a text that is said for the `k`-th time, where `p` violations had counted before. -/
def IsVerdictOn (settings : SpamProfile) (p k : Nat) (v : Verdict) : Prop :=
  if settings.messageLimit ∣ k then
    ∃ tier,
      settings.punishments[min (p + k / settings.messageLimit - 1) (settings.punishments.length - 1)]? = some tier ∧
        v = .ofPunishment tier "repeated messages"
  else v = .none

/-- The verdict on a message of a user, if it is compared with the history. -/
def Event.reply? (user : String) (e : Event) : Option Verdict := (e.job.case? user).bind fun _ => e.answer

theorem succ_of_mod_lt {limit n : Nat} (h : n % limit + 1 < limit) :
    (n + 1) % limit = n % limit + 1 ∧ (n + 1) / limit = n / limit := by
  have hn : n + 1 = limit * (n / limit) + (n % limit + 1) := by
    rw [← Nat.add_assoc, Nat.div_add_mod]
  rw [hn, Nat.mul_add_mod, Nat.mul_add_div (by omega), Nat.mod_eq_of_lt h, Nat.div_eq_of_lt h]
  exact ⟨rfl, rfl⟩

theorem succ_of_not_mod_lt {limit n : Nat} (hpos : 0 < limit) (h : ¬ n % limit + 1 < limit) :
    (n + 1) % limit = 0 ∧ (n + 1) / limit = n / limit + 1 := by
  have hmod := Nat.mod_lt n hpos
  have hn : n + 1 = limit * (n / limit + 1) := by
    have := Nat.div_add_mod n limit
    rw [Nat.mul_add_one]
    omega
  rw [hn, Nat.mul_mod_right, Nat.mul_div_cancel_left _ hpos]
  exact ⟨rfl, rfl⟩

theorem isVerdictOn_none {settings : SpamProfile} {p n : Nat}
    (h : n % settings.messageLimit + 1 < settings.messageLimit) : IsVerdictOn settings p (n + 1) .none := by
  rw [IsVerdictOn, if_neg]
  rw [Nat.dvd_iff_mod_eq_zero, (succ_of_mod_lt h).1]
  exact Nat.succ_ne_zero _

theorem isVerdictOn_ofPunishment {settings : SpamProfile} (hpos : 0 < settings.messageLimit) {p n : Nat}
    (h : ¬ n % settings.messageLimit + 1 < settings.messageLimit) {tier : Punishment}
    (ht : pickTier settings.punishments (p + n / settings.messageLimit) = some tier) :
    IsVerdictOn settings p (n + 1) (.ofPunishment tier "repeated messages") := by
  obtain ⟨hmod, hdiv⟩ := succ_of_not_mod_lt hpos h
  rw [IsVerdictOn, if_pos (Nat.dvd_of_mod_eq_zero hmod), hdiv]
  exact ⟨tier, ht, rfl⟩

theorem count_marked (l : Ledger String Unit) (key : String) (now window : Nat) :
    (marked l key now window).count key = l.count key + 1 := by
  rw [Ledger.count_eq, Ledger.count_eq, marked, Ledger.push, Ledger.items_push, if_pos rfl, List.length_append]
  rfl

namespace Repeated

variable {settings : SpamProfile} {words : List String} {user : String} {p n : Nat} {e : Event} {b : Books}

/-- Nothing of the user is said, and nothing of the user is reclaimed. -/
theorem pass (h : Repeated settings words user p n e.before) (hb : e.before.Represents b)
    (hc : e.job.case? user = none) (hcount : e.after.history.count user = e.before.history.count user)
    (hviolations : e.after.violations.spam.priorCount user = e.before.violations.spam.priorCount user) :
    Repeated settings words user p n e.after :=
  ⟨fun line hline => h.words line ((e.remembered_sublist hb hc).subset hline), hcount.trans h.count,
    hviolations.trans h.violations⟩

theorem length_items (h : Repeated settings words user p n e.before) (hb : e.before.Represents b) :
    (b.history.items user).length = n % settings.messageLimit := by
  rw [← hb.remembered, hb.length_remembered, h.count]

theorem count_spam (h : Repeated settings words user p n e.before) (hb : e.before.Represents b) :
    b.spam.count user = p + n / settings.messageLimit :=
  (hb.violations.spam.represents.count user).symm.trans h.violations

variable {c : SpamCase} (hs : settings.Sound) (hne : words ≠ []) (htext : c.IsText)
  (hsettings : c.profile.settings = settings) (hwords : HasWords words c.fingerprint)

include hs hne htext hsettings hwords

/-- The text is punished when it reaches the limit again, with the next tier. -/
theorem sentence? (h : Repeated settings words user p n e.before) (hb : e.before.Represents b) :
    b.sentence? c user =
      if n % settings.messageLimit + 1 < settings.messageLimit then none
      else (pickTier settings.punishments (p + n / settings.messageLimit)).map (.textRepeats, ·) := by
  have hall : ∀ f ∈ (b.history.items user).map (·.payload), HasWords words f := by
    rw [← hb.remembered]
    simpa using h.words
  have hrepeats : c.repeats ((b.history.items user).map (·.payload)) = n % settings.messageLimit + 1 := by
    rw [repeats_of_hasWords (hsettings ▸ hs.threshold) hne hwords hall, List.length_map, h.length_items hb]
  rw [htext.sentence? b user, hrepeats, hsettings, h.count_spam hb]

/-- The text is said once more. -/
theorem say (h : Repeated settings words user p n e.before) (hb : e.before.Represents b)
    (hc : e.job.case? user = some c) :
    (∃ v, e.reply? user = some v ∧ IsVerdictOn settings p (n + 1) v) ∧
      Repeated settings words user p (n + 1) e.after := by
  obtain ⟨-, now, later, -, -, -, -, hafter, hanswer⟩ := e.settle hb hc
  have hreply : e.reply? user = some (b.settle c user now later).2 := by rw [Event.reply?, hc, ← hanswer]; rfl
  have hsentence := h.sentence? hs hne htext hsettings hwords hb
  by_cases hlt : n % settings.messageLimit + 1 < settings.messageLimit
  -- the message is added to the history, and that is all
  · rw [if_pos hlt] at hsentence
    rw [Books.settle_acquit hsentence] at hreply hafter
    have hitems : e.after.remembered user = e.before.remembered user ++ [c.line user now] := by
      rw [hafter.remembered, b.items_add, if_pos rfl, hb.remembered]
    obtain ⟨hmod, hdiv⟩ := succ_of_mod_lt hlt
    refine ⟨⟨_, hreply, isVerdictOn_none hlt⟩, fun line hline => ?_, ?_, ?_⟩
    · rw [hitems] at hline
      rcases List.mem_append.1 hline with hline | hline
      · exact h.words line hline
      · obtain rfl := List.mem_singleton.1 hline
        exact hwords
    · rw [← hafter.length_remembered, hitems, List.length_append, hb.length_remembered, h.count, hmod]
      rfl
    · rw [hdiv, ← h.count_spam hb]
      exact hafter.violations.spam.represents.count user
  -- there is a tier, and the history is cleared
  · obtain ⟨tier, htier⟩ := Option.isSome_iff_exists.1
      (isSome_pickTier hs.punishments (p + n / settings.messageLimit))
    rw [if_neg hlt, htier] at hsentence
    rw [Books.settle_textRepeats hsentence] at hreply hafter
    have hitems : e.after.remembered user = [] := by
      rw [hafter.remembered, Books.history_mark, Books.forget, Ledger.items_clear, if_pos rfl]
    obtain ⟨hmod, hdiv⟩ := succ_of_not_mod_lt hs.messageLimit hlt
    refine ⟨⟨_, hreply, isVerdictOn_ofPunishment hs.messageLimit hlt htier⟩, by simp [hitems], ?_, ?_⟩
    · rw [← hafter.length_remembered, hitems, hmod]
      rfl
    · rw [hdiv, ← Nat.add_assoc, ← h.count_spam hb]
      exact (hafter.violations.spam.represents.count user).trans (count_marked _ _ _ _)

end Repeated

/-! ### Runs -/

/-- A user says one text over and over in some jobs, under one accepted configuration. -/
structure Repeating (config : Config) (settings : SpamProfile) (words : List String) (user : String)
    (jobs : List Job) : Prop where
  accepted : config.validate = .ok ()
  snapshot : ∀ w now later m, Job.check w now later m ∈ jobs → w.snapshot = .compile config
  nonempty : words ≠ []
  /-- Messages of the user that are compared with the history consist of these words and fall under this policy. -/
  text : ∀ job ∈ jobs, ∀ c, job.case? user = some c →
    c.IsText ∧ c.profile.settings = settings ∧ ∀ t, t ∈ c.fingerprint.tokens ↔ t ∈ words

/-- Whether a sweep reclaims nothing of a user, neither messages nor repeats that have been punished. -/
def Event.Spares (user : String) (e : Event) : Prop :=
  ∀ now index part, e.job = .sweep now index part →
    e.after.history.count user = e.before.history.count user ∧
      e.after.violations.spam.priorCount user = e.before.violations.spam.priorCount user

/-- What happens without a message of the user leaves the counts of the user alone. -/
theorem Event.Spares.counts {user : String} {e : Event} (hspares : e.Spares user) {b : Books}
    (hb : e.before.Represents b) (hc : e.job.case? user = none) :
    e.after.history.count user = e.before.history.count user ∧
      e.after.violations.spam.priorCount user = e.before.violations.spam.priorCount user := by
  cases hjob : e.job with
  | sweep now index part => exact hspares now index part hjob
  | check w now later m =>
    obtain ⟨hafter, -, -⟩ := hb.perform e.job
    rw [hjob] at hafter hc
    obtain ⟨hhistory, hspam⟩ := b.perform_of_no_case e.before.layout hc
    rw [Event.after, hjob]
    constructor
    · rw [hafter.history.represents.count, hb.history.represents.count, Ledger.count_eq, hhistory, ← Ledger.count_eq]
    · refine (hafter.violations.spam.represents.count user).trans (Eq.trans ?_
        (hb.violations.spam.represents.count user).symm)
      rw [Ledger.count_eq, hspam, ← Ledger.count_eq]

namespace Repeating

variable {config : Config} {settings : SpamProfile} {words : List String} {user : String} {jobs : List Job}

theorem of_append {others : List Job} (h : Repeating config settings words user (jobs ++ others)) :
    Repeating config settings words user jobs :=
  ⟨h.accepted, fun w now later m hm => h.snapshot w now later m (List.mem_append_left _ hm), h.nonempty,
    fun job hm => h.text job (List.mem_append_left _ hm)⟩

/-- A message of the user that is compared with the history is the text, under an accepted policy. -/
theorem of_case (h : Repeating config settings words user jobs) {job : Job} (hm : job ∈ jobs) {c : SpamCase}
    (hc : job.case? user = some c) :
    settings.Sound ∧ c.IsText ∧ c.profile.settings = settings ∧ HasWords words c.fingerprint := by
  obtain ⟨htext, hsettings, hwords⟩ := h.text job hm c hc
  obtain ⟨w, now, later, m, rfl, -, hf⟩ := Job.case?_eq_some hc
  obtain ⟨hprofile, hfingerprint⟩ := watched_eq hf
  obtain ⟨hstandard, hvip⟩ := Config.sound_of_validate h.accepted
  refine ⟨?_, htext, hsettings, hfingerprint ▸ Fingerprint.nodup_ofTokens _, hwords⟩
  rw [← hsettings, hprofile, profileFor, h.snapshot w now later m hm]
  split
  · exact hvip
  · exact hstandard

/-- The verdicts on the text so far, and what they leave behind. -/
theorem run {r : Records} {b : Books} (hr : r.Represents b) (h : Repeating config settings words user jobs)
    (hspares : ∀ e ∈ r.events jobs, e.Spares user) (hempty : r.history.count user = 0) :
    ((r.events jobs).filterMap (Event.reply? user)).length = jobs.countP (fun job => (job.case? user).isSome) ∧
      (∀ k v, ((r.events jobs).filterMap (Event.reply? user))[k]? = some v →
        IsVerdictOn settings (r.violations.spam.priorCount user) (k + 1) v) ∧
      Repeated settings words user (r.violations.spam.priorCount user)
        (jobs.countP fun job => (job.case? user).isSome) (r.performAll jobs).1 := by
  induction jobs using List.reverseRecOn with
  | nil =>
    have hnone : r.remembered user = [] := List.eq_nil_of_length_eq_zero (hr.length_remembered user ▸ hempty)
    refine ⟨rfl, nofun, ?_, ?_, ?_⟩
    · simp [Records.performAll, hnone]
    · simpa [Records.performAll] using hempty
    · simp [Records.performAll]
  | append_singleton jobs job ih =>
    obtain ⟨e, rfl, hbefore, ⟨b', hb⟩, hevents, hafter⟩ := hr.events_append_singleton jobs job
    rw [hevents] at hspares
    obtain ⟨hlength, hverdicts, hleft⟩ := ih h.of_append fun d hd => hspares d (List.mem_append_left _ hd)
    rw [← hbefore] at hleft
    rw [hevents, hafter, List.filterMap_append, filterMap_singleton, List.countP_append, List.countP_singleton]
    cases hc : e.job.case? user with
    | none =>
      have hreply : e.reply? user = none := by rw [Event.reply?, hc]; rfl
      obtain ⟨hcount, hviolations⟩ := (hspares e (List.mem_append_right _ List.mem_cons_self)).counts hb hc
      rw [hreply, Option.toList_none, List.append_nil]
      exact ⟨hlength, hverdicts, hleft.pass hb hc hcount hviolations⟩
    | some c =>
      obtain ⟨hsound, htext, hsettings, hwords⟩ := h.of_case (List.mem_append_right _ List.mem_cons_self) hc
      obtain ⟨⟨v, hreply, hv⟩, hleft'⟩ := hleft.say hsound h.nonempty htext hsettings hwords hb hc
      rw [hreply, Option.toList_some]
      refine ⟨by rw [List.length_append, hlength]; rfl, fun k u hu => ?_, hleft'⟩
      rcases Nat.lt_trichotomy k ((r.events jobs).filterMap (Event.reply? user)).length with hlt | rfl | hgt
      · exact hverdicts k u (by rwa [List.getElem?_append_left hlt] at hu)
      · rw [List.getElem?_concat_length] at hu
        obtain rfl := Option.some.inj hu
        rw [hlength]
        exact hv
      · rw [List.getElem?_eq_none (by rw [List.length_append]; exact hgt)] at hu
        cases hu

end Repeating

/--
A user with no history says one text over and over, other users say what they like, and nothing of the user is
reclaimed.  Then the messages at which the limit of the policy is reached again are punished, one tier higher each time
up to the last one, the others are not, and the history holds what has been said since the last punishment.
-/
theorem punished_at_multiples {r : Records} {b : Books} (hr : r.Represents b) {config : Config}
    {settings : SpamProfile} {words : List String} {user : String} {jobs : List Job}
    (h : Repeating config settings words user jobs) (hspares : ∀ e ∈ r.events jobs, e.Spares user)
    (hempty : r.history.count user = 0) :
    ((r.events jobs).filterMap (Event.reply? user)).length = jobs.countP (fun job => (job.case? user).isSome) ∧
      (∀ k v, ((r.events jobs).filterMap (Event.reply? user))[k]? = some v →
        IsVerdictOn settings (r.violations.spam.priorCount user) (k + 1) v) ∧
      (r.performAll jobs).1.history.count user =
        jobs.countP (fun job => (job.case? user).isSome) % settings.messageLimit := by
  obtain ⟨hlength, hverdicts, hleft⟩ := h.run hr hspares hempty
  exact ⟨hlength, hverdicts, hleft.count⟩

theorem repeating_twoGreetings : Repeating twiceConfig twiceConfig.spam.standard ["hi"] "7" twoGreetings := by
  have hcases : ∀ job ∈ twoGreetings, job.case? "7" = none ∨
      job.case? "7" = some (spamCase twiceSurroundings (saying "7" "hi") []).1 := by decide +kernel
  refine ⟨by decide +kernel, fun w now later m hm => ?_, by decide, fun job hm c hc => ?_⟩
  · simp only [twoGreetings, List.mem_cons, Job.check.injEq, List.not_mem_nil, or_false] at hm
    rcases hm with ⟨rfl, -⟩ | ⟨rfl, -⟩ | ⟨rfl, -⟩ | ⟨rfl, -⟩ <;> rfl
  · obtain hnone | hsome := hcases job hm
    · rw [hnone] at hc
      cases hc
    · obtain rfl := Option.some.inj (hc.symm.trans hsome)
      exact ⟨⟨by decide +kernel, by decide +kernel⟩, rfl, fun t => Fingerprint.mem_ofTokens⟩

theorem punished_at_multiples_twoGreetings :
    Repeating twiceConfig twiceConfig.spam.standard ["hi"] "7" twoGreetings ∧
      emptyRecords.history.count "7" = 0 ∧ (∀ e ∈ emptyRecords.events twoGreetings, e.Spares "7") ∧
      ((emptyRecords.events twoGreetings).filterMap (Event.reply? "7")).length = 3 ∧
      (emptyRecords.performAll twoGreetings).1.history.count "7" = 1 := by
  have hempty : emptyRecords.history.count "7" = 0 := by decide +kernel
  have hspares : ∀ e ∈ emptyRecords.events twoGreetings, e.Spares "7" := by
    intro e he now index part hjob
    have hm : e.job ∈ (emptyRecords.events twoGreetings).map (·.job) := List.mem_map_of_mem he
    rw [Records.map_job_events, hjob] at hm
    simp [twoGreetings] at hm
  have hn : twoGreetings.countP (fun job => (job.case? "7").isSome) = 3 := by decide +kernel
  have hr : emptyRecords.Represents ⟨[], [], [], [], []⟩ := represents_empty _ _
  obtain ⟨hlength, -, hcount⟩ := punished_at_multiples hr repeating_twoGreetings hspares hempty
  rw [hn] at hlength hcount
  exact ⟨repeating_twoGreetings, hempty, hspares, hlength, hcount⟩

end ChatModeration.Moderation
