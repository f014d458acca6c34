import ChatModeration.Proofs.Moderation.Counting
import ChatModeration.Proofs.Moderation.Runs
import ChatModeration.Proofs.Similarity

/-!
# Precedents of a repeat

A verdict on a repeated message has precedents: as many similar messages of the same user as the policy asks for, each
of which a check has added to the history of the user since that was cleared for the last time
(`precedents_of_repeat`).  The history of a user never holds anything else (`Represents.remembered_sublist_said`).
-/

namespace ChatModeration.Moderation

/-! ### Verdicts on repeats -/

/-- Only the policy on repeated messages gives this reason. -/
theorem Books.sentence_of_repeat {b : Books} {user : String} {now later : Nat} {finding : Finding}
    (h : (b.judge user now later finding).2.reason = "repeated messages") :
    ∃ c tier, finding = .watched c ∧ b.sentence? c user = some (.textRepeats, tier) := by
  have hno : ∀ {g : Ground}, g.reason = "repeated messages" → g = .textRepeats :=
    fun hg => Ground.reason_injective (h := .textRepeats) hg
  cases finding with
  | bypassed | unwatched => cases hno (g := .nothing) h
  | bannedWord => cases hno (g := .bannedWord) h
  | advertising => cases hno (g := .advertising) h
  | wordTooLong => cases hno (g := .longWord) h
  | ruleBroken position rule =>
    unfold judge at h
    dsimp only at h
    split at h
    · cases hno (g := .nothing) h
    · cases hno (g := .rule rule.name) h
  | watched c =>
    rw [judge, settle] at h
    split at h
    · cases hno (g := .nothing) h
    · rename_i p tier hs
      have hp : p.ground = .textRepeats := hno (p.reason_eq.symm.trans h)
      cases p with
      | textRepeats => exact ⟨c, tier, rfl, hs⟩
      | _ => cases hp

theorem Books.penalty_of_sentence {b : Books} {c : SpamCase} {user : String} {p : Penalty} {tier : Punishment}
    (h : b.sentence? c user = some (p, tier)) :
    c.penalty? (c.repeats ((b.history.items user).map (·.payload))) = some p := by
  obtain ⟨q, hq, hmap⟩ := Option.bind_eq_some_iff.1 h
  obtain ⟨_, -, hpair⟩ := Option.map_eq_some_iff.1 hmap
  cases hpair
  exact hq

theorem messageLimit_le_of_penalty {c : SpamCase} {n : Nat} (h : c.penalty? n = some .textRepeats) :
    c.profile.settings.messageLimit ≤ n := by
  unfold SpamCase.penalty? at h
  split at h
  · split at h <;> cases h
  · dsimp only at h
    split at h
    · repeat' split at h
      all_goals cases h
    · split at h
      · cases h
      · exact Nat.le_of_not_lt ‹_›

/-! ### What an event does to the history of a user -/

namespace Event

variable {e : Event} {b : Books} {user : String}

/-- Whether a check leaves nothing in the history of a user, although it has added a message to it. -/
def Clears (e : Event) (user : String) : Prop := (e.job.case? user).isSome ∧ e.after.remembered user = []

/-- Whether a check adds a message of a user with this fingerprint at the end of the history of the user. -/
def Adds (e : Event) (user : String) (f : Fingerprint String) : Prop :=
  ∃ w now later m, e.job = .check w now later m ∧ m.userId = user ∧ f = .ofTokens m.tokens ∧
    ∃ line, line.payload = f ∧ e.after.remembered user = e.before.remembered user ++ [line]

/-- Whether a check ends with a verdict on a repeated message. -/
def IsRepeat (e : Event) : Prop := ∃ v, e.answer = some v ∧ v.reason = "repeated messages"

/-- The check of a message that is compared with the history adds the message, unless it clears the history then. -/
theorem clears_or_adds (h : e.before.Represents b) {c : SpamCase} (hc : e.job.case? user = some c) :
    e.Clears user ∨ e.Adds user c.fingerprint := by
  obtain ⟨w, now, later, m, hjob, hu, hf, hsettle, -⟩ := e.settle h hc
  have hafter := hsettle.remembered user
  rw [b.items_settle] at hafter
  split at hafter
  · exact .inl ⟨by rw [hc]; rfl, hafter⟩
  · exact .inr ⟨w, now, later, m, hjob, hu, (watched_eq hf).2, c.line user now, rfl, by rw [hafter, h.remembered]⟩

/-- A verdict on a repeated message comes from the history of its sender, and clears it. -/
theorem sentence_of_isRepeat (h : e.before.Represents b) {w : Surroundings} {now later : Nat} {m : ChatMessage}
    (hjob : e.job = .check w now later m) (hrepeat : e.IsRepeat) :
    ∃ c tier, (find w m).1 = .watched c ∧ b.sentence? c m.userId = some (.textRepeats, tier) ∧ e.Clears m.userId := by
  obtain ⟨v, hv, hreason⟩ := hrepeat
  rw [answer, hjob, (h.perform _).2.2, Books.perform] at hv
  obtain rfl := Option.some.inj hv
  obtain ⟨c, tier, hf, hs⟩ := Books.sentence_of_repeat hreason
  refine ⟨c, tier, hf, hs, ?_, ?_⟩
  · rw [hjob, Job.case?_check, hf]
    rfl
  · rw [after, hjob, (h.perform_watched hf).1.remembered, b.items_settle, hs]
    rfl

end Event

/-! ### What the history of a user holds -/

namespace Records

/-- The history of a user holds messages that have been added since it was cleared for the last time. -/
theorem Represents.remembered_sublist_said {r : Records} {b : Books} (h : r.Represents b) {user : String}
    (hempty : r.remembered user = []) (jobs : List Job) :
    ∃ earlier recent, r.events jobs = earlier ++ recent ∧ (∀ e ∈ recent, ¬ e.Clears user) ∧
      (((r.performAll jobs).1.remembered user).map (·.payload)).Sublist
        (recent.filterMap fun e => e.job.said? user) := by
  induction jobs using List.reverseRecOn with
  | nil =>
    refine ⟨[], [], rfl, List.forall_mem_nil _, ?_⟩
    rw [Records.performAll, hempty]
    exact List.nil_sublist _
  | append_singleton jobs job ih =>
    obtain ⟨earlier, recent, hsplit, hkept, hsub⟩ := ih
    obtain ⟨e, rfl, hbefore, ⟨c, hb⟩, hevents, hafter⟩ := h.events_append_singleton jobs job
    rw [← hbefore] at hsub
    rw [hevents, hsplit, hafter]
    by_cases hclears : e.Clears user
    -- the history is empty, and nothing has been added to it since
    · refine ⟨earlier ++ recent ++ [e], [], (List.append_nil _).symm, List.forall_mem_nil _, ?_⟩
      rw [hclears.2]
      exact List.nil_sublist _
    · refine ⟨earlier, recent ++ [e], List.append_assoc .., ?_, ?_⟩
      · exact List.forall_mem_append.2 ⟨hkept, List.forall_mem_singleton.2 hclears⟩
      · rw [List.filterMap_append, filterMap_singleton]
        cases hc : e.job.case? user with
        | none => exact (((e.remembered_sublist hb hc).map _).trans hsub).trans (List.sublist_append_left _ _)
        | some c =>
          obtain ⟨-, -, -, -, -, -, -, line, hline, hadds⟩ := (e.clears_or_adds hb hc).resolve_left hclears
          rw [hadds, List.map_append, List.map_singleton, hline, Job.said?, hc]
          exact hsub.append_right _

end Records

/-! ### Precedents -/

/-- Whether a message is so similar to another one, with this fingerprint, that the policy counts it. -/
def resembles (w : Surroundings) (m : ChatMessage) (f : Fingerprint String) : Bool :=
  isSimilar (profileFor w m).settings.similarityThreshold (.ofTokens m.tokens) f

theorem length_filter_filterMap {α β : Type} (f : α → Option β) (p : β → Bool) (l : List α) :
    ((l.filterMap f).filter p).length = (l.filter fun a => (f a).any p).length := by
  induction l with
  | nil => rfl
  | cons a l ih =>
    cases hf : f a with
    | none => simp [hf, ih]
    | some b => cases hp : p b <;> simp [hf, hp, ih]

/-- What is counted is similar, and at most one more than the similar messages in the history. -/
theorem repeats_le (c : SpamCase) (history : List (Fingerprint String)) :
    c.repeats history ≤
      (history.filter (isSimilar c.profile.settings.similarityThreshold c.fingerprint)).length +
        (isSimilar c.profile.settings.similarityThreshold c.fingerprint c.fingerprint).toNat := by
  refine Nat.le_trans (countSimilar_le _ _) ?_
  rw [List.map_append, List.count_append]
  refine Nat.add_le_add ?_ ?_
  · rw [List.count, List.countP_map, List.countP_eq_length_filter]
    exact Nat.le_of_eq (congrArg List.length (List.filter_congr fun f _ => by simp))
  · cases h : isSimilar c.profile.settings.similarityThreshold c.fingerprint c.fingerprint <;> simp [h]

/-- Behind a verdict on a repeated message there are as many messages that it resembles as the policy asks for. -/
theorem Event.messageLimit_le {e : Event} {b : Books} (hb : e.before.Represents b) {w : Surroundings}
    {now later : Nat} {m : ChatMessage} (hjob : e.job = .check w now later m) (hrepeat : e.IsRepeat) :
    (profileFor w m).settings.messageLimit ≤
      (((e.before.remembered m.userId).map (·.payload)).filter (resembles w m)).length +
        (resembles w m (.ofTokens m.tokens)).toNat := by
  obtain ⟨c, tier, hf, hs, -⟩ := e.sentence_of_isRepeat hb hjob hrepeat
  obtain ⟨hprofile, hfingerprint⟩ := watched_eq hf
  have hle := Nat.le_trans (messageLimit_le_of_penalty (Books.penalty_of_sentence hs)) (repeats_le c _)
  rw [hprofile, hfingerprint, ← hb.remembered] at hle
  exact hle

/-- A message that resembles anything resembles itself, so that a repeat does where a limit is set. -/
theorem Event.resembles_self {e : Event} {b : Books} (hb : e.before.Represents b) {w : Surroundings}
    {now later : Nat} {m : ChatMessage} (hjob : e.job = .check w now later m) (hrepeat : e.IsRepeat)
    (hpos : 0 < (profileFor w m).settings.messageLimit) : resembles w m (.ofTokens m.tokens) = true := by
  have hlimit := e.messageLimit_le hb hjob hrepeat
  by_contra hself
  have hnothing : ((e.before.remembered m.userId).map (·.payload)).filter (resembles w m) = [] :=
    List.filter_eq_nil_iff.2 fun f _ hsimilar => hself (isSimilar_self hsimilar)
  rw [hnothing, eq_false_of_ne_true hself] at hlimit
  exact absurd hlimit (Nat.not_le.2 hpos)

/--
A verdict on a repeated message has precedents, so many that with the message itself they reach the limit of the
policy.  They are messages of the same user that the message resembles, a check has added each of them to the history
of the user, and since then the history has not been cleared; so none of them was a repeat itself.
-/
theorem precedents_of_repeat {settings : StoreSettings} {assign : String → Nat} {jobs : List Job}
    {past rest : List Event} {e : Event} {w : Surroundings} {now later : Nat} {m : ChatMessage}
    (hrun : (Records.empty settings assign).events jobs = past ++ e :: rest) (hjob : e.job = .check w now later m)
    (hrepeat : e.IsRepeat) :
    ∃ earlier recent precedents : List Event, past = earlier ++ recent ∧ (∀ d ∈ recent, ¬ d.Clears m.userId) ∧
      precedents.Sublist recent ∧ (profileFor w m).settings.messageLimit ≤ precedents.length + 1 ∧
      (∀ d ∈ precedents, ¬ d.IsRepeat ∧ ∃ f, d.Adds m.userId f ∧ resembles w m f = true) ∧
      (∃ c, (find w m).1 = .watched c ∧ c.fingerprint = .ofTokens m.tokens) ∧
      (0 < (profileFor w m).settings.messageLimit → resembles w m (.ofTokens m.tokens) = true) := by
  have hempty := represents_empty settings assign
  have hnone : (Records.empty settings assign).remembered m.userId = [] := hempty.remembered m.userId
  have hrepr : ∀ d ∈ past ++ e :: rest, ∃ b, d.before.Represents b := fun d hd => hempty.events (hrun ▸ hd)
  obtain ⟨b, hb⟩ := hrepr e (List.mem_append_right _ List.mem_cons_self)
  -- what the message is compared with has been said since the history was cleared
  obtain ⟨hpast, hbefore⟩ := Records.events_split hrun
  obtain ⟨earlier, recent, hsplit, hkept, hsub⟩ := hempty.remembered_sublist_said hnone (past.map (·.job))
  rw [← hpast] at hsplit
  rw [← hbefore] at hsub
  let precedents := recent.filter fun d => (d.job.said? m.userId).any (resembles w m)
  have hcount : (((e.before.remembered m.userId).map (·.payload)).filter (resembles w m)).length ≤
      precedents.length := by
    rw [← length_filter_filterMap]
    exact (hsub.filter _).length_le
  refine ⟨earlier, recent, precedents, hsplit, hkept, List.filter_sublist, ?_, fun d hd => ?_, ?_,
    e.resembles_self hb hjob hrepeat⟩
  · have hlimit := e.messageLimit_le hb hjob hrepeat
    have hone := (resembles w m (.ofTokens m.tokens)).toNat_le
    omega
  · obtain ⟨hmem, hany⟩ := List.mem_filter.1 hd
    obtain ⟨f, hsaid, hsimilar⟩ := (Option.any_eq_true _ _).1 hany
    obtain ⟨c, hc, rfl⟩ := Option.map_eq_some_iff.1 hsaid
    obtain ⟨b', hb'⟩ := hrepr d (List.mem_append_left _ (hsplit ▸ List.mem_append_right _ hmem))
    obtain ⟨w', now', later', m', hjob', hu, -⟩ := Job.case?_eq_some hc
    refine ⟨fun hagain => ?_, c.fingerprint, (d.clears_or_adds hb' hc).resolve_left (hkept d hmem), hsimilar⟩
    -- a repeat clears the history
    obtain ⟨-, -, -, -, hclears⟩ := d.sentence_of_isRepeat hb' hjob' hagain
    exact hkept d hmem (hu ▸ hclears)
  · obtain ⟨c, -, hf, -⟩ := e.sentence_of_isRepeat hb hjob hrepeat
    exact ⟨c, hf, (watched_eq hf).2⟩

/-- A word is said twice: the first time is the precedent of the second. -/
theorem precedents_of_repeat_twice :
    ∃ first second : Event,
      emptyRecords.events
          [.check twiceSurroundings 1 1 (saying "7" "hi"), .check twiceSurroundings 2 2 (saying "7" "hi")] =
        [first, second] ∧
      second.IsRepeat ∧ ¬ first.IsRepeat ∧
        ∃ f, first.Adds "7" f ∧ resembles twiceSurroundings (saying "7" "hi") f = true := by
  let first : Event := ⟨emptyRecords, .check twiceSurroundings 1 1 (saying "7" "hi")⟩
  let second : Event := ⟨first.after, .check twiceSurroundings 2 2 (saying "7" "hi")⟩
  have hrun : (Records.empty { shards := 1 } fun _ => 0).events [first.job, second.job] = [first] ++ second :: [] := rfl
  have hanswer : second.answer = some (.ofPunishment .delete "repeated messages") := by decide +kernel
  have hrepeat : second.IsRepeat := ⟨_, hanswer, rfl⟩
  obtain ⟨earlier, recent, precedents, hsplit, -, hsub, hlimit, hall, -⟩ := precedents_of_repeat hrun rfl hrepeat
  have hpast : recent.Sublist [first] := hsplit ▸ List.sublist_append_right _ _
  have hlength : 2 ≤ precedents.length + 1 := hlimit
  obtain rfl : precedents = [first] := (hsub.trans hpast).eq_of_length_le (by simpa using hlength)
  exact ⟨first, second, hrun, hrepeat, hall first List.mem_cons_self⟩

end ChatModeration.Moderation
