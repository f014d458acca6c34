import ChatModeration.Proofs.Moderation.Stages

/-!
# Where checks stop

All that can come of the stages of a check (`Goes`) is the check of the message, which finds out about the message first
and looks at the records after that (`check_eq_passage`).  Where a check stops and what it asks the oracle does not
depend on the records (`stop_of_any_records`).
-/

namespace ChatModeration.Moderation

/-! ### The whole check -/

/-- How the check of a message goes that reaches the rules. -/
inductive AtRules (r : Records) (w : Surroundings) (now later : Nat) (m : ChatMessage) : Passage → Prop where
  | broken {i : Nat} {rule : Rule} {tier : Punishment} {n : Notes}
      (h : Broken w m now { records := r } w.snapshot.rules i rule tier n) :
      AtRules r w now later m (n.conclude (.rule i rule.name) (some tier)
        (.ofPunishment tier ("matched rule '" ++ rule.name ++ "'")))
  | longWord {n : Notes} {p : Punishment} (h : Unbroken w m { records := r } w.snapshot.rules n)
      (hp : longWord? w m = some p) :
      AtRules r w now later m (n.conclude .longWord (some p) (.ofPunishment p "word too long"))
  | unwatched {n : Notes} (h : Unbroken w m { records := r } w.snapshot.rules n) (hp : longWord? w m = none)
      (he : (profileFor w m).settings.enabled = false) :
      AtRules r w now later m (n.conclude (.unwatched (profileFor w m)) none .none)
  | watched {n n' : Notes} {exception : Option (Nat × SpamException)}
      (h : Unbroken w m { records := r } w.snapshot.rules n) (hp : longWord? w m = none)
      (he : (profileFor w m).settings.enabled = true) (hs : Searched w m n (exceptionsFor w m) exception n') :
      AtRules r w now later m (n'.settle (caseUnder w m exception) exception m.userId now later)

/-- How the check of a message goes. -/
inductive Goes (r : Records) (w : Surroundings) (now later : Nat) (m : ChatMessage) : Passage → Prop where
  | bypassed {reason : Bypass} (h : bypass? w m = some reason) :
      Goes r w now later m (Notes.conclude { records := r } (.bypassed reason) none .none)
  | bannedWord {word : String} (hb : bypass? w m = none) (h : w.snapshot.banned? m.tokens m.normalized = some word) :
      Goes r w now later m (Notes.conclude { records := r } (.bannedWord word) none (.ban "banned word"))
  | advertising {channel : String} (hb : bypass? w m = none)
      (hw : w.snapshot.banned? m.tokens m.normalized = none) (h : advertised? w m = some channel) :
      Goes r w now later m (Notes.conclude { records := r } (.advertising channel) none (.ban "advertising"))
  | atRules {p : Passage} (hb : bypass? w m = none) (hw : w.snapshot.banned? m.tokens m.normalized = none)
      (ha : advertised? w m = none) (h : AtRules r w now later m p) : Goes r w now later m p

theorem atRules_rulesOn (r : Records) (w : Surroundings) (now later : Nat) (m : ChatMessage) :
    AtRules r w now later m (rulesOn w m now later { records := r }) := by
  rw [rulesOn]
  rcases ruleStage_cases w m now 0 { records := r } w.snapshot.rules with ⟨n, hstage, hunbroken⟩ |
    ⟨i, rule, tier, n, hstage, hbroken⟩
  · rw [hstage]
    dsimp only
    split
    · rename_i p hp
      exact .longWord hunbroken hp
    · rename_i hp
      rw [spamStage]
      split
      · rename_i he
        obtain ⟨exception, n', hsearch, hsearched⟩ := exceptionStage_cases w m 0 n (exceptionsFor w m)
        have hzero : (exception.map fun f => (0 + f.1, f.2)) = exception := by simp
        rw [hsearch, hzero]
        exact .watched hunbroken hp he hsearched
      · rename_i he
        exact .unwatched hunbroken hp (by simpa using he)
  · rw [hstage, Nat.zero_add]
    exact .broken hbroken

theorem goes_passage (r : Records) (w : Surroundings) (now later : Nat) (m : ChatMessage) :
    Goes r w now later m (passage r w now later m) := by
  unfold passage
  split
  · rename_i reason h
    exact .bypassed h
  · rename_i hb
    split
    · rename_i word h
      exact .bannedWord hb h
    · rename_i hw
      split
      · rename_i channel h
        exact .advertising hb hw h
      · rename_i ha
        exact .atRules hb hw ha (atRules_rulesOn r w now later m)

/-- What comes out of a check. -/
def Passage.result (p : Passage) : Records × Verdict × List Question :=
  (p.records, p.verdict, p.inquiries.map (·.question))

theorem check_of_find {w : Surroundings} {m : ChatMessage} {finding : Finding} {questions : List Question}
    (h : find w m = (finding, questions)) (r : Records) (now later : Nat) :
    check r w now later m =
      ((judge r m.userId now later finding).1, (judge r m.userId now later finding).2, questions) := by
  rw [check, h]

section Result

variable {r : Records} {w : Surroundings} {now later : Nat} {m : ChatMessage} {p : Passage}

theorem Broken.brokenRule_eq {i : Nat} {rule : Rule} {tier : Punishment} {n : Notes}
    (h : Broken w m now { records := r } w.snapshot.rules i rule tier n) :
    brokenRule w m = (some (i, rule), n.inquiries.map (·.question)) := by
  simpa [Moderation.brokenRule_eq] using h.found 0

theorem Unbroken.brokenRule_eq {n : Notes} (h : Unbroken w m { records := r } w.snapshot.rules n) :
    brokenRule w m = (none, n.inquiries.map (·.question)) := h.found 0

theorem Searched.firstWith_eq {n n' : Notes} {exception : Option (Nat × SpamException)}
    (h : Searched w m n (exceptionsFor w m) exception n') :
    firstWith (excepts w m) 0 (n.inquiries.map (·.question)) (exceptionsFor w m) =
      (exception, n'.inquiries.map (·.question)) := by simpa using h.found 0

theorem AtRules.result_eq (hb : bypass? w m = none) (hw : w.snapshot.banned? m.tokens m.normalized = none)
    (ha : advertised? w m = none) (h : AtRules r w now later m p) : check r w now later m = p.result := by
  cases h with
  | @broken i rule tier n h =>
    have hfind : find w m = (.ruleBroken i rule, n.inquiries.map (·.question)) := by
      rw [find, hb, hw, ha, h.brokenRule_eq]
    have hjudge : judge r m.userId now later (.ruleBroken i rule) =
        (r.escalateRule rule m.userId now, .ofPunishment tier ("matched rule '" ++ rule.name ++ "'")) := by
      rcases he : r.violations.rules.escalate (rule.violationKey m.userId) rule.punishments rule.resetWindow now with
        ⟨rules, picked⟩
      obtain rfl : picked = some tier := (congrArg Prod.snd he).symm.trans h.picked
      simp only [judge, Records.escalateRule, he]
    rw [check_of_find hfind, hjudge, Passage.result, Notes.conclude, h.records]
  | @longWord n tier h hp =>
    have hfind : find w m = (.wordTooLong tier, n.inquiries.map (·.question)) := by
      rw [find, hb, hw, ha, h.brokenRule_eq, hp]
    rw [check_of_find hfind, Passage.result, Notes.conclude, h.records]
    rfl
  | @unwatched n h hp he =>
    have hfind : find w m = (.unwatched, n.inquiries.map (·.question)) := by
      rw [find, hb, hw, ha, h.brokenRule_eq, hp, he]
      rfl
    rw [check_of_find hfind, Passage.result, Notes.conclude, h.records]
    rfl
  | @watched n n' exception h hp he hs =>
    have hcase : spamCase w m (n.inquiries.map (·.question)) =
        (caseUnder w m exception, n'.inquiries.map (·.question)) := by rw [spamCase_eq, hs.firstWith_eq]
    have hfind : find w m = (.watched (caseUnder w m exception), n'.inquiries.map (·.question)) := by
      simp only [find, hb, hw, ha, h.brokenRule_eq, hp, he, hcase, if_true]
    rw [check_of_find hfind, Passage.result, Notes.settle, hs.records, h.records]

theorem Goes.result_eq (h : Goes r w now later m p) : check r w now later m = p.result := by
  cases h with
  | bypassed h => exact check_of_find (by rw [find, h]) r now later
  | bannedWord hb h => exact check_of_find (by rw [find, hb, h]) r now later
  | advertising hb hw h => exact check_of_find (by rw [find, hb, hw, h]) r now later
  | atRules hb hw ha h => exact h.result_eq hb hw ha

end Result

/-- The check of a message finds out about it first, and looks at the records after that. -/
theorem check_eq_passage (r : Records) (w : Surroundings) (now later : Nat) (m : ChatMessage) :
    check r w now later m = (passage r w now later m).result := (goes_passage r w now later m).result_eq

/-! ### Verdicts -/

/-- What the verdict on a watched message may be. -/
theorem judge_watched (r : Records) (c : SpamCase) (user : String) (now later : Nat) :
    ((c.answer? r user later).join = none ∧ (judge r user now later (.watched c)).2 = .none) ∨
      ∃ p tier, c.penalty? (c.repeats ((r.history.items user).map (·.payload))) = some p ∧
        (c.escalate p user later r.violations).2 = some tier ∧ (c.answer? r user later).join = some tier ∧
        (judge r user now later (.watched c)).2 = .ofPunishment tier p.reason := by
  let e : Store.Entry String (Fingerprint String) := ⟨r.history.shardOf user, user, now, r.history.horizon⟩
  have hverdict : (judge r user now later (.watched c)).2 = (c.settle r.violations later e).2.2 := rfl
  rw [hverdict, SpamCase.answer?]
  cases hp : c.penalty? (c.repeats ((r.history.items user).map (·.payload))) with
  | none =>
    have hp' : c.penalty? (c.repeats (e.items.map (·.payload))) = none := hp
    exact .inl ⟨rfl, by rw [SpamCase.settle, hp']⟩
  | some p =>
    have hp' : c.penalty? (c.repeats (e.items.map (·.payload))) = some p := hp
    rcases he : c.escalate p e.key later r.violations with ⟨v, _ | tier⟩
    · exact .inl ⟨congrArg Prod.snd he, by simp only [SpamCase.settle, hp', he]⟩
    · exact .inr ⟨p, tier, rfl, congrArg Prod.snd he, congrArg Prod.snd he, by simp only [SpamCase.settle, hp', he]⟩

/-- What the verdict of a check that stops somewhere may be, and the punishment that has been picked for it. -/
def Stop.Allows : Stop → Option Punishment → Verdict → Prop
  | .bypassed _, punishment, verdict | .unwatched _, punishment, verdict => punishment = none ∧ verdict = .none
  | .bannedWord _, punishment, verdict => punishment = none ∧ verdict = .ban "banned word"
  | .advertising _, punishment, verdict => punishment = none ∧ verdict = .ban "advertising"
  | .rule _ name, punishment, verdict =>
    ∃ tier, punishment = some tier ∧ verdict = .ofPunishment tier ("matched rule '" ++ name ++ "'")
  | .longWord, punishment, verdict => ∃ tier, punishment = some tier ∧ verdict = .ofPunishment tier "word too long"
  | .watched _ _ _, punishment, verdict =>
    (punishment = none ∧ verdict = .none) ∨
      ∃ (p : Penalty) (tier : Punishment), punishment = some tier ∧ verdict = .ofPunishment tier p.reason

/-- The rules whose turn it has been when a check stops, those of exceptions included. -/
def Stop.considered (w : Surroundings) (m : ChatMessage) : Stop → List Rule
  | .bypassed _ | .bannedWord _ | .advertising _ => []
  | .rule position _ => Moderation.considered w.snapshot.rules (some position)
  | .longWord | .unwatched _ => w.snapshot.rules
  | .watched _ _ exception =>
    w.snapshot.rules ++ Moderation.considered ((exceptionsFor w m).map (·.rule)) (exception.map (·.1))

/-- Where the check of a message stops, by what is found out about it. -/
def stopFor (w : Surroundings) (m : ChatMessage) : Stop :=
  match bypass? w m with
  | some reason => .bypassed reason
  | none =>
    match w.snapshot.banned? m.tokens m.normalized with
    | some word => .bannedWord word
    | none =>
      match advertised? w m with
      | some channel => .advertising channel
      | none =>
        match brokenRule w m with
        | (some (position, rule), _) => .rule position rule.name
        | (none, questions) =>
          match longWord? w m with
          | some _ => .longWord
          | none =>
            if (profileFor w m).settings.enabled then
              .watched (profileFor w m) (treatedAsEmotes w m)
                (firstWith (excepts w m) 0 questions (exceptionsFor w m)).1
            else .unwatched (profileFor w m)

section Stops

variable {r : Records} {w : Surroundings} {now later : Nat} {m : ChatMessage} {p : Passage}

theorem Goes.allows (h : Goes r w now later m p) : p.stop.Allows p.punishment p.verdict := by
  cases h with
  | bypassed | bannedWord | advertising => exact ⟨rfl, rfl⟩
  | atRules hb hw ha h =>
    cases h with
    | broken | longWord => exact ⟨_, rfl, rfl⟩
    | unwatched => exact ⟨rfl, rfl⟩
    | @watched n n' exception h hp he hs =>
      rcases judge_watched n'.records (caseUnder w m exception) m.userId now later with hnone |
        ⟨penalty, tier, -, -, hpicked, hverdict⟩
      · exact .inl hnone
      · exact .inr ⟨penalty, tier, hpicked, hverdict⟩

/-- Only rules whose turn it has been ask the oracle, in their order, and only if all else about them fits. -/
theorem Goes.inquiries_eq (h : Goes r w now later m p) :
    p.inquiries = ((p.stop.considered w m).filter (asks m)).map (inquiry w m) := by
  cases h with
  | bypassed | bannedWord | advertising => rfl
  | atRules hb hw ha h =>
    cases h with
    | broken h => exact h.inquiries
    | longWord h => exact h.inquiries
    | unwatched h => exact h.inquiries
    | @watched n n' exception h hp he hs =>
      have hall : n'.inquiries = _ := hs.inquiries
      rw [h.inquiries, List.nil_append, ← List.map_append, ← List.filter_append] at hall
      exact hall

theorem Goes.stop_eq (h : Goes r w now later m p) : p.stop = stopFor w m := by
  cases h with
  | bypassed h => rw [stopFor, h]; rfl
  | bannedWord hb h => rw [stopFor, hb, h]; rfl
  | advertising hb hw h => rw [stopFor, hb, hw, h]; rfl
  | atRules hb hw ha h =>
    cases h with
    | broken h => rw [stopFor, hb, hw, ha, h.brokenRule_eq]; rfl
    | longWord h hp => rw [stopFor, hb, hw, ha, h.brokenRule_eq, hp]; rfl
    | unwatched h hp he => simp only [stopFor, hb, hw, ha, h.brokenRule_eq, hp, he]; rfl
    | watched h hp he hs =>
      simp only [stopFor, hb, hw, ha, h.brokenRule_eq, hp, he, hs.firstWith_eq, if_true]
      rfl

end Stops

/--
Where the check of a message stops and what it asks the oracle is the same whatever the records are, and whenever it is.
The oracle is asked by the rules for first messages, and those of exceptions, whose turn it has been and about which all
else fits, in their order.
-/
theorem stop_of_any_records (w : Surroundings) (m : ChatMessage) (r r' : Records) (now later now' later' : Nat) :
    let p := passage r w now later m
    let p' := passage r' w now' later' m
    check r w now later m = p.result ∧ check r' w now' later' m = p'.result ∧
      p.stop.Allows p.punishment p.verdict ∧ p'.stop.Allows p'.punishment p'.verdict ∧
      p'.stop = p.stop ∧ p'.inquiries = p.inquiries ∧
      (check r' w now' later' m).2.2 = (check r w now later m).2.2 ∧
      p.inquiries = ((p.stop.considered w m).filter (asks m)).map (inquiry w m) := by
  intro p p'
  have h : Goes r w now later m p := goes_passage r w now later m
  have h' : Goes r' w now' later' m p' := goes_passage r' w now' later' m
  have hstop : p'.stop = p.stop := h'.stop_eq.trans h.stop_eq.symm
  have hinquiries : p'.inquiries = p.inquiries := by rw [h'.inquiries_eq, h.inquiries_eq, hstop]
  refine ⟨h.result_eq, h'.result_eq, h.allows, h'.allows, hstop, hinquiries, ?_, h.inquiries_eq⟩
  rw [h.result_eq, h'.result_eq, Passage.result, Passage.result, hinquiries]

end ChatModeration.Moderation
