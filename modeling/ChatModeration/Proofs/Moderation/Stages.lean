import ChatModeration.Proofs.Escalation

/-!
# Checks stage by stage

A check goes through its stages one after the other (`passage`).  In the stage of the rules each rule that applies
escalates in its turn, and only if it has no tier the next one has its turn (`ruleStage_cases`); the exceptions have
their turns until one applies (`exceptionStage_cases`).  On the way it is noted who asks the oracle and what escalations
answer, and in the end where the check has stopped (`Stop`).
-/

namespace ChatModeration.Moderation

/-! ### Notes -/

/-- Where a check stops. -/
inductive Stop where
  | bypassed (reason : Bypass)
  | bannedWord (word : String)
  | advertising (channel : String)
  | rule (position : Nat) (name : String)
  | longWord
  /-- The policy for the sender is switched off. -/
  | unwatched (profile : CompiledProfile)
  /-- The message is compared with the history of its sender, under an exception at some position or under none. -/
  | watched (profile : CompiledProfile) (emoteOnly : Bool) (exception : Option (Nat × SpamException))
deriving DecidableEq, Repr

/-- A question to the oracle and the rule that asks it. -/
structure Inquiry where
  rule : Rule
  question : Question
deriving DecidableEq, Repr

/-- The records while a check is under way, and what has been noted. -/
structure Notes where
  records : Records
  inquiries : List Inquiry := []
  /-- What escalations have answered. -/
  escalations : List (Option Punishment) := []

/-- How a check has gone. -/
structure Passage extends Notes where
  stop : Stop
  /-- The punishment that has been picked. -/
  punishment : Option Punishment
  verdict : Verdict

/-- The records after an escalation under a rule. -/
def Records.escalateRule (r : Records) (rule : Rule) (user : String) (now : Nat) : Records :=
  { r with
    violations := { r.violations with
      rules := (r.violations.rules.escalate (rule.violationKey user) rule.punishments rule.resetWindow now).1 } }

namespace Notes

/-- Whether a rule applies to a message when it is its turn. -/
def holds (n : Notes) (w : Surroundings) (m : ChatMessage) (rule : Rule) : Bool :=
  (applies w m rule n.inquiries.length).1

/-- Whether a rule has tiers and applies when it is its turn. -/
def Breaks (n : Notes) (w : Surroundings) (m : ChatMessage) (rule : Rule) : Prop :=
  n.holds w m rule = true ∧ rule.punishments ≠ []

/-- The notes after the turn of a rule, which may have asked a question. -/
def inquire (n : Notes) (w : Surroundings) (m : ChatMessage) (rule : Rule) : Notes :=
  { n with inquiries := n.inquiries ++ (applies w m rule n.inquiries.length).2.map (⟨rule, ·⟩) }

/-- Escalates under a rule. -/
def escalate (n : Notes) (rule : Rule) (user : String) (now : Nat) : Notes × Option Punishment :=
  let v := n.records.violations
  let tier := (v.rules.escalate (rule.violationKey user) rule.punishments rule.resetWindow now).2
  ({ n with
      records := n.records.escalateRule rule user now
      escalations := n.escalations ++ [tier] }, tier)

/-- The check stops here. -/
def conclude (n : Notes) (stop : Stop) (punishment : Option Punishment) (verdict : Verdict) : Passage :=
  { n with stop, punishment, verdict }

end Notes

/-! ### Stages -/

/-- The rules from some position on have their turns, until one of them applies and has a tier. -/
def ruleStage (w : Surroundings) (m : ChatMessage) (now position : Nat) (n : Notes) :
    List Rule → Notes × Option (Nat × Rule × Punishment)
  | [] => (n, none)
  | rule :: rest =>
    if n.holds w m rule then
      match (n.inquire w m rule).escalate rule m.userId now with
      | (n, some tier) => (n, some (position, rule, tier))
      | (n, none) => ruleStage w m now (position + 1) n rest
    else ruleStage w m now (position + 1) (n.inquire w m rule) rest

/-- The exceptions from some position on have their turns, until one of them applies. -/
def exceptionStage (w : Surroundings) (m : ChatMessage) (position : Nat) (n : Notes) :
    List SpamException → Notes × Option (Nat × SpamException)
  | [] => (n, none)
  | e :: rest =>
    if n.holds w m e.rule then (n.inquire w m e.rule, some (position, e))
    else exceptionStage w m (position + 1) (n.inquire w m e.rule) rest

/-- Whether a message is treated as one of emotes. -/
def treatedAsEmotes (w : Surroundings) (m : ChatMessage) : Bool :=
  (profileFor w m).settings.emote.enabled && (m.emoteOnly || (emoteStats (isEmote w) m.rawTokens).2)

/-- The exceptions that are there for a message. -/
def exceptionsFor (w : Surroundings) (m : ChatMessage) : List SpamException :=
  if treatedAsEmotes w m then (profileFor w m).emoteExceptions else (profileFor w m).exceptions

/-- What the spam policies look at, under an exception or under none. -/
def caseUnder (w : Surroundings) (m : ChatMessage) (exception : Option (Nat × SpamException)) : SpamCase where
  profile := profileFor w m
  emoteOnly := treatedAsEmotes w m
  emoteCount := max m.emoteCount (emoteStats (isEmote w) m.rawTokens).1
  exception := exception.map (·.2)
  fingerprint := .ofTokens m.tokens

/-- What the escalation under a spam policy answers, if one is violated. -/
def SpamCase.answer? (c : SpamCase) (r : Records) (user : String) (later : Nat) : Option (Option Punishment) :=
  (c.penalty? (c.repeats ((r.history.items user).map (·.payload)))).map
    fun p => (c.escalate p user later r.violations).2

/-- The message is compared with the history of its sender. -/
def Notes.settle (n : Notes) (c : SpamCase) (exception : Option (Nat × SpamException)) (user : String)
    (now later : Nat) : Passage :=
  let answer := c.answer? n.records user later
  let judged := judge n.records user now later (.watched c)
  { n with
    records := judged.1
    escalations := n.escalations ++ answer.toList
    stop := .watched c.profile c.emoteOnly exception
    punishment := answer.join
    verdict := judged.2 }

/-- The message is compared with the history of its sender, if the policy for the sender is switched on. -/
def spamStage (w : Surroundings) (m : ChatMessage) (now later : Nat) (n : Notes) : Passage :=
  if (profileFor w m).settings.enabled then
    let (n, exception) := exceptionStage w m 0 n (exceptionsFor w m)
    n.settle (caseUnder w m exception) exception m.userId now later
  else n.conclude (.unwatched (profileFor w m)) none .none

/-- The stages from the rules on. -/
def rulesOn (w : Surroundings) (m : ChatMessage) (now later : Nat) (n : Notes) : Passage :=
  match ruleStage w m now 0 n w.snapshot.rules with
  | (n, some (position, rule, tier)) =>
    n.conclude (.rule position rule.name) (some tier) (.ofPunishment tier ("matched rule '" ++ rule.name ++ "'"))
  | (n, none) =>
    match longWord? w m with
    | some p => n.conclude .longWord (some p) (.ofPunishment p "word too long")
    | none => spamStage w m now later n

/-- The check of a message, stage by stage. -/
def passage (r : Records) (w : Surroundings) (now later : Nat) (m : ChatMessage) : Passage :=
  match bypass? w m with
  | some reason => Notes.conclude { records := r } (.bypassed reason) none .none
  | none =>
    match w.snapshot.banned? m.tokens m.normalized with
    | some word => Notes.conclude { records := r } (.bannedWord word) none (.ban "banned word")
    | none =>
      match advertised? w m with
      | some channel => Notes.conclude { records := r } (.advertising channel) none (.ban "advertising")
      | none => rulesOn w m now later { records := r }

/-! ### Turns -/

/-- Whether a rule is for first messages and all else about it fits a message, so that it asks the oracle. -/
def asks (m : ChatMessage) (rule : Rule) : Bool :=
  !rule.options.exempts m.roles && (rule.firstMatch? m).isSome && rule.options.firstMessageOnly

/-- What a rule asks that asks the oracle about a message. -/
def inquiry (w : Surroundings) (m : ChatMessage) (rule : Rule) : Inquiry := ⟨rule, question w m⟩

theorem applies_snd (w : Surroundings) (m : ChatMessage) (rule : Rule) (asked : Nat) :
    (applies w m rule asked).2 = if asks m rule then [question w m] else [] := by
  unfold applies asks
  cases rule.options.exempts m.roles <;> cases rule.firstMatch? m <;> cases rule.options.firstMessageOnly <;> rfl

theorem inquiries_inquire (n : Notes) (w : Surroundings) (m : ChatMessage) (rule : Rule) :
    (n.inquire w m rule).inquiries = n.inquiries ++ ([rule].filter (asks m)).map (inquiry w m) := by
  rw [Notes.inquire, applies_snd]
  cases h : asks m rule <;> simp [h, inquiry]

theorem firstWith_of_holds {α : Type} {test : α → Nat → Bool × List Question} {questions : List Question} {a : α}
    (h : (test a questions.length).1 = true) (position : Nat) (rest : List α) :
    firstWith test position questions (a :: rest) = (some (position, a), questions ++ (test a questions.length).2) := by
  rw [firstWith]
  exact if_pos h

theorem firstWith_of_not_holds {α : Type} {test : α → Nat → Bool × List Question} {questions : List Question} {a : α}
    (h : ¬ (test a questions.length).1 = true) (position : Nat) (rest : List α) :
    firstWith test position questions (a :: rest) =
      firstWith test (position + 1) (questions ++ (test a questions.length).2) rest := by
  rw [firstWith]
  exact if_neg h

theorem questions_inquire (n : Notes) (w : Surroundings) (m : ChatMessage) (rule : Rule) :
    (n.inquire w m rule).inquiries.map (·.question) =
      n.inquiries.map (·.question) ++ (applies w m rule n.inquiries.length).2 := by
  simp [Notes.inquire, Function.comp_def]

/-- The answer of an escalation. -/
theorem escalate_snd (v : Violations) (key : String) (tiers : List Punishment) (window now : Nat) :
    (v.escalate key tiers window now).2 = pickTier tiers (v.priorCount key) := by
  simp only [Violations.escalate, Store.withKey]
  split
  · rename_i h
    exact h.symm
  · rename_i tier h
    exact h.symm

theorem escalateRule_of_nil {rule : Rule} (h : rule.punishments = []) (r : Records) (user : String) (now : Nat) :
    r.escalateRule rule user now = r := by
  simp only [Records.escalateRule, h, Violations.escalate_nil]

/-- The number of questions that have been asked when the rule at some position has its turn. -/
def askedBefore (m : ChatMessage) (rules : List Rule) (i : Nat) : Nat := (rules.take i).countP (asks m)

/-- Whether the rule at some position applies when it is its turn, after some questions were asked before all rules. -/
def PassesAt (w : Surroundings) (m : ChatMessage) (asked : Nat) (rules : List Rule) (i : Nat) : Prop :=
  ∃ rule, rules[i]? = some rule ∧ (applies w m rule (asked + askedBefore m rules i)).1 = true

theorem length_inquire (n : Notes) (w : Surroundings) (m : ChatMessage) (rule : Rule) :
    (n.inquire w m rule).inquiries.length = n.inquiries.length + if asks m rule then 1 else 0 := by
  rw [inquiries_inquire]
  cases h : asks m rule <;> simp [h]

theorem passesAt_zero {w : Surroundings} {m : ChatMessage} {asked : Nat} {rule : Rule} {rest : List Rule} :
    PassesAt w m asked (rule :: rest) 0 ↔ (applies w m rule asked).1 = true := by
  simp [PassesAt, askedBefore]

theorem passesAt_succ {w : Surroundings} {m : ChatMessage} {n : Notes} {rule : Rule} {rest : List Rule} {i : Nat} :
    PassesAt w m n.inquiries.length (rule :: rest) (i + 1) ↔
      PassesAt w m (n.inquire w m rule).inquiries.length rest i := by
  simp only [PassesAt, askedBefore, length_inquire, List.getElem?_cons_succ, List.take_succ_cons, List.countP_cons]
  simp only [Nat.add_assoc, Nat.add_comm (if asks m rule then 1 else 0)]

/-! ### Rules -/

/-- The test by which a broken rule is found. -/
def breaks (w : Surroundings) (m : ChatMessage) (rule : Rule) (asked : Nat) : Bool × List Question :=
  ((applies w m rule asked).1 && !rule.punishments.isEmpty, (applies w m rule asked).2)

theorem brokenRule_eq (w : Surroundings) (m : ChatMessage) :
    brokenRule w m = firstWith (breaks w m) 0 [] w.snapshot.rules := rfl

/-- What comes of the turns of some rules of which none applies and has tiers. -/
structure Unbroken (w : Surroundings) (m : ChatMessage) (n : Notes) (rules : List Rule) (n' : Notes) : Prop where
  records : n'.records = n.records
  inquiries : n'.inquiries = n.inquiries ++ (rules.filter (asks m)).map (inquiry w m)
  escalations : (∀ rule ∈ rules, rule.punishments ≠ []) → n'.escalations = n.escalations
  passed : ∀ i, PassesAt w m n.inquiries.length rules i → ∃ rule, rules[i]? = some rule ∧ rule.punishments = []
  found : ∀ position, firstWith (breaks w m) position (n.inquiries.map (·.question)) rules =
    (none, n'.inquiries.map (·.question))

/-- What comes of the turns of some rules of which the one at some position is the first that applies and has tiers. -/
structure Broken (w : Surroundings) (m : ChatMessage) (now : Nat) (n : Notes) (rules : List Rule) (i : Nat)
    (rule : Rule) (tier : Punishment) (n' : Notes) : Prop where
  position : rules[i]? = some rule
  picked : (n.records.violations.rules.escalate (rule.violationKey m.userId) rule.punishments rule.resetWindow now).2 =
    some tier
  records : n'.records = n.records.escalateRule rule m.userId now
  inquiries : n'.inquiries = n.inquiries ++ ((rules.take (i + 1)).filter (asks m)).map (inquiry w m)
  escalations : (∀ rule ∈ rules, rule.punishments ≠ []) → n'.escalations = n.escalations ++ [some tier]
  passes : PassesAt w m n.inquiries.length rules i
  passed : ∀ j < i, PassesAt w m n.inquiries.length rules j → ∃ rule, rules[j]? = some rule ∧ rule.punishments = []
  found : ∀ position, firstWith (breaks w m) position (n.inquiries.map (·.question)) rules =
    (some (position + i, rule), n'.inquiries.map (·.question))

section RuleTurns

variable {w : Surroundings} {m : ChatMessage} {now : Nat} {n n' : Notes} {first : Rule} {rest : List Rule}

theorem firstWith_of_breaks (h : n.Breaks w m first) (position : Nat) :
    firstWith (breaks w m) position (n.inquiries.map (·.question)) (first :: rest) =
      (some (position, first), (n.inquire w m first).inquiries.map (·.question)) := by
  have htest : (breaks w m first (n.inquiries.map (·.question)).length).1 = true := by
    rw [List.length_map]
    exact Bool.and_eq_true_iff.2 ⟨h.1, by simpa using h.2⟩
  rw [firstWith_of_holds htest, questions_inquire, List.length_map, breaks]

theorem firstWith_of_not_breaks (h : ¬ n.Breaks w m first) (position : Nat) :
    firstWith (breaks w m) position (n.inquiries.map (·.question)) (first :: rest) =
      firstWith (breaks w m) (position + 1) ((n.inquire w m first).inquiries.map (·.question)) rest := by
  have htest : ¬ (breaks w m first (n.inquiries.map (·.question)).length).1 = true := by
    rw [List.length_map]
    intro htest
    obtain ⟨hholds, htiers⟩ := Bool.and_eq_true_iff.1 htest
    exact h ⟨hholds, by simpa using htiers⟩
  rw [firstWith_of_not_holds htest, questions_inquire, List.length_map, breaks]

/-- A rule that applies and has tiers picks one. -/
theorem ruleStage_of_breaks (h : n.Breaks w m first) (now position : Nat) (rest : List Rule) :
    ∃ n' tier, ruleStage w m now position n (first :: rest) = (n', some (position, first, tier)) ∧
      Broken w m now n (first :: rest) 0 first tier n' := by
  obtain ⟨tier, htier⟩ := Option.isSome_iff_exists.1
    (isSome_pickTier h.2 (n.records.violations.rules.priorCount (first.violationKey m.userId)))
  rw [← escalate_snd _ _ _ first.resetWindow now] at htier
  refine ⟨{ n.inquire w m first with
      records := n.records.escalateRule first m.userId now
      escalations := n.escalations ++ [some tier] }, tier, ?_, rfl, htier, rfl, inquiries_inquire n w m first,
    fun _ => rfl, passesAt_zero.2 h.1, nofun, firstWith_of_breaks h⟩
  rw [ruleStage, if_pos h.1]
  simp only [Notes.escalate, Notes.inquire, htier]

/-- After a rule that does not apply or has no tiers the next one has its turn. -/
theorem ruleStage_of_not_breaks (h : ¬ n.Breaks w m first) (now position : Nat)
    (rest : List Rule) :
    ∃ escalations,
      ruleStage w m now position n (first :: rest) =
        ruleStage w m now (position + 1) { n.inquire w m first with escalations } rest ∧
      (first.punishments ≠ [] → escalations = n.escalations) := by
  by_cases hholds : n.holds w m first = true
  · have hnil : first.punishments = [] := by
      by_contra hne
      exact h ⟨hholds, hne⟩
    refine ⟨n.escalations ++ [none], ?_, fun hne => absurd hnil hne⟩
    have hanswer := escalate_snd n.records.violations.rules (first.violationKey m.userId) first.punishments
      first.resetWindow now
    rw [hnil, Violations.pickTier_nil, ← hnil] at hanswer
    rw [ruleStage, if_pos hholds]
    simp only [Notes.escalate, Notes.inquire, hanswer, escalateRule_of_nil hnil]
  · refine ⟨n.escalations, ?_, fun _ => rfl⟩
    rw [ruleStage, if_neg hholds]
    rfl

/-- A rule that is passed over has no tiers if it applies. -/
theorem passed_cons (h : ¬ n.Breaks w m first) {j : Nat}
    (hrest : ∀ i, i + 1 = j → PassesAt w m (n.inquire w m first).inquiries.length rest i →
      ∃ rule, rest[i]? = some rule ∧ rule.punishments = [])
    (hj : PassesAt w m n.inquiries.length (first :: rest) j) :
    ∃ rule, (first :: rest)[j]? = some rule ∧ rule.punishments = [] := by
  cases j with
  | zero =>
    refine ⟨first, rfl, ?_⟩
    by_contra hne
    exact h ⟨passesAt_zero.1 hj, hne⟩
  | succ i => exact hrest i rfl (passesAt_succ.1 hj)

theorem inquiries_inquire_append (n : Notes) (w : Surroundings) (m : ChatMessage) (first : Rule) (rest : List Rule) :
    (n.inquire w m first).inquiries ++ (rest.filter (asks m)).map (inquiry w m) =
      n.inquiries ++ ((first :: rest).filter (asks m)).map (inquiry w m) := by
  rw [inquiries_inquire, List.append_assoc, ← List.map_append, ← List.filter_append]
  rfl

theorem Unbroken.cons (h : ¬ n.Breaks w m first)
    {escalations : List (Option Punishment)} (he : first.punishments ≠ [] → escalations = n.escalations)
    (hrest : Unbroken w m { n.inquire w m first with escalations } rest n') : Unbroken w m n (first :: rest) n' where
  records := hrest.records
  inquiries := hrest.inquiries.trans (inquiries_inquire_append n w m first rest)
  escalations hall := by
    obtain ⟨hfirst, hall⟩ := List.forall_mem_cons.1 hall
    exact (hrest.escalations hall).trans (he hfirst)
  passed i hi := passed_cons h (fun j _ hj => hrest.passed j hj) hi
  found position := (firstWith_of_not_breaks h position).trans (hrest.found (position + 1))

theorem Broken.cons (h : ¬ n.Breaks w m first)
    {escalations : List (Option Punishment)} (he : first.punishments ≠ [] → escalations = n.escalations)
    {i : Nat} {rule : Rule} {tier : Punishment}
    (hrest : Broken w m now { n.inquire w m first with escalations } rest i rule tier n') :
    Broken w m now n (first :: rest) (i + 1) rule tier n' where
  position := hrest.position
  picked := hrest.picked
  records := hrest.records
  inquiries := hrest.inquiries.trans (inquiries_inquire_append n w m first (rest.take (i + 1)))
  escalations hall := by
    obtain ⟨hfirst, hall⟩ := List.forall_mem_cons.1 hall
    rw [hrest.escalations hall, he hfirst]
  passes := passesAt_succ.2 hrest.passes
  passed j hj := passed_cons h fun k hk => hrest.passed k (by omega)
  found position := by
    rw [firstWith_of_not_breaks h, ← Nat.add_assoc, Nat.add_right_comm]
    exact hrest.found (position + 1)

end RuleTurns

/-- What comes of the turns of some rules. -/
theorem ruleStage_cases (w : Surroundings) (m : ChatMessage) (now position : Nat) (n : Notes) (rules : List Rule) :
    (∃ n', ruleStage w m now position n rules = (n', none) ∧ Unbroken w m n rules n') ∨
      ∃ i rule tier n', ruleStage w m now position n rules = (n', some (position + i, rule, tier)) ∧
        Broken w m now n rules i rule tier n' := by
  induction rules generalizing position n with
  | nil =>
    exact .inl ⟨n, rfl, rfl, (List.append_nil _).symm, fun _ => rfl, fun i hi => by simp [PassesAt] at hi, fun _ => rfl⟩
  | cons first rest ih =>
    -- the first rule decides, or the others have their turns with the notes that it leaves
    by_cases h : n.Breaks w m first
    · obtain ⟨n', tier, hstage, hbroken⟩ := ruleStage_of_breaks h now position rest
      exact .inr ⟨0, first, tier, n', hstage, hbroken⟩
    · obtain ⟨escalations, hstage, he⟩ := ruleStage_of_not_breaks h now position rest
      rw [hstage]
      rcases ih (position + 1) { n.inquire w m first with escalations } with ⟨n', hrest, hunbroken⟩ |
        ⟨i, rule, tier, n', hrest, hbroken⟩
      · exact .inl ⟨n', hrest, hunbroken.cons h he⟩
      · refine .inr ⟨i + 1, rule, tier, n', ?_, hbroken.cons h he⟩
        rw [hrest, Nat.add_right_comm]
        rfl

/-! ### Exceptions -/

/-- The rules that have had their turns when a search has ended at some position, or has found nothing. -/
def considered (rules : List Rule) : Option Nat → List Rule
  | none => rules
  | some i => rules.take (i + 1)

/-- The test by which the exception is found. -/
def excepts (w : Surroundings) (m : ChatMessage) (e : SpamException) (asked : Nat) : Bool × List Question :=
  applies w m e.rule asked

/-- What the spam policies look at is the case under the first exception that applies. -/
theorem spamCase_eq (w : Surroundings) (m : ChatMessage) (questions : List Question) :
    spamCase w m questions =
      (caseUnder w m (firstWith (excepts w m) 0 questions (exceptionsFor w m)).1,
        (firstWith (excepts w m) 0 questions (exceptionsFor w m)).2) := rfl

/-- What comes of the turns of some exceptions. -/
structure Searched (w : Surroundings) (m : ChatMessage) (n : Notes) (exceptions : List SpamException)
    (found : Option (Nat × SpamException)) (n' : Notes) : Prop where
  records : n'.records = n.records
  escalations : n'.escalations = n.escalations
  inquiries : n'.inquiries = n.inquiries ++
    ((considered (exceptions.map (·.rule)) (found.map (·.1))).filter (asks m)).map (inquiry w m)
  found : ∀ position, firstWith (excepts w m) position (n.inquiries.map (·.question)) exceptions =
    (found.map fun f => (position + f.1, f.2), n'.inquiries.map (·.question))

theorem exceptionStage_cases (w : Surroundings) (m : ChatMessage) (position : Nat) (n : Notes)
    (exceptions : List SpamException) :
    ∃ found n', exceptionStage w m position n exceptions = (n', found.map fun f => (position + f.1, f.2)) ∧
      Searched w m n exceptions found n' := by
  induction exceptions generalizing position n with
  | nil => exact ⟨none, n, rfl, rfl, rfl, (List.append_nil _).symm, fun _ => rfl⟩
  | cons e rest ih =>
    have hlength : (n.inquiries.map (·.question)).length = n.inquiries.length := List.length_map _
    have hrule : (excepts w m e (n.inquiries.map (·.question)).length).1 = n.holds w m e.rule := by
      rw [hlength, excepts, Notes.holds]
    by_cases h : n.holds w m e.rule = true
    · refine ⟨some (0, e), n.inquire w m e.rule, ?_, rfl, rfl, inquiries_inquire n w m e.rule, fun position => ?_⟩
      · rw [exceptionStage, if_pos h]
        rfl
      · rw [firstWith_of_holds (hrule.trans h), questions_inquire, hlength, excepts]
        rfl
    · obtain ⟨found, n', hrest, hsearched⟩ := ih (position + 1) (n.inquire w m e.rule)
      -- positions among the others are one less
      have hshift : ∀ position : Nat, (found.map fun f => (position + 1 + f.1, f.2)) =
          (found.map fun f => (f.1 + 1, f.2)).map fun f => (position + f.1, f.2) := by
        intro position
        cases found with
        | none => rfl
        | some f => simp [Nat.add_assoc, Nat.add_comm 1]
      refine ⟨found.map fun f => (f.1 + 1, f.2), n', ?_, hsearched.records, hsearched.escalations, ?_,
        fun position => ?_⟩
      · rw [exceptionStage, if_neg h, hrest, hshift]
      · rw [hsearched.inquiries]
        cases found with
        | none => exact inquiries_inquire_append n w m e.rule _
        | some f => exact inquiries_inquire_append n w m e.rule _
      · rw [firstWith_of_not_holds (hrule ▸ h), hlength, excepts, ← questions_inquire, hsearched.found, hshift]

end ChatModeration.Moderation
