import ChatModeration.Moderation.Desk
import ChatModeration.Proofs.Moderation.Books

/-!
# What a check leaves behind

A check changes the books in one way, and its verdict tells in which one (`check_footprint`): verdicts are told apart
by their reasons (`Ground`), and each of them goes with a change of the books (`Footprint`).  Of the stores and keys
that the change does not name nothing is touched.
-/

namespace ChatModeration.Moderation

open Store (Ledger)

/-! ### Grounds of a verdict -/

/-- What a verdict is based on. -/
inductive Ground where
  | nothing
  | bannedWord
  | advertising
  | longWord
  | rule (name : String)
  | emoteCeiling
  | emoteRepeats
  | textRepeats
  | exception (name : String)
deriving DecidableEq, Repr

namespace Ground

/-- The reason that a verdict gives. -/
def reason : Ground → String
  | nothing => ""
  | bannedWord => "banned word"
  | advertising => "advertising"
  | longWord => "word too long"
  | rule name => "matched rule '" ++ name ++ "'"
  | emoteCeiling => "too many emotes"
  | emoteRepeats => "emote spam"
  | textRepeats => "repeated messages"
  | exception name => "spam exception '" ++ name ++ "'"

/-- Whether a verdict is based on this. -/
def Explains (g : Ground) (v : Verdict) : Prop := v.reason = g.reason ∧ (v.kind = .none ↔ g = nothing)

/-- The first letter of a reason. -/
def letter : Ground → Option Char
  | nothing => none
  | bannedWord => some 'b'
  | advertising => some 'a'
  | longWord => some 'w'
  | rule _ => some 'm'
  | emoteCeiling => some 't'
  | emoteRepeats => some 'e'
  | textRepeats => some 'r'
  | exception _ => some 's'

theorem reason_rule (name : String) : (rule name).reason = "matched rule '" ++ name ++ "'" := rfl

theorem reason_exception (name : String) : (exception name).reason = "spam exception '" ++ name ++ "'" := rfl

theorem head?_reason (g : Ground) : g.reason.toList.head? = g.letter := by
  cases g with
  | rule name => simp [reason_rule, letter]
  | exception name => simp [reason_exception, letter]
  | _ => rfl

/-- Grounds are told apart by their reasons. -/
theorem reason_injective {g h : Ground} (he : g.reason = h.reason) : g = h := by
  have hletter : g.letter = h.letter := by rw [← head?_reason, he, head?_reason]
  cases g with
  | rule name =>
    cases h with
    | rule other =>
      have hname : name = other := by simpa [reason_rule] using he
      rw [hname]
    | _ => simp [letter] at hletter
  | exception name =>
    cases h with
    | exception other =>
      have hname : name = other := by simpa [reason_exception] using he
      rw [hname]
    | _ => simp [letter] at hletter
  | _ => cases h <;> first | rfl | simp [letter] at hletter

theorem Explains.eq {g h : Ground} {v : Verdict} (hg : g.Explains v) (hh : h.Explains v) : h = g :=
  reason_injective (hh.1.symm.trans hg.1)

end Ground

/-! ### Changes of the books -/

/-- The books with a message at the end of the history of its sender. -/
def Books.say (b : Books) (w : Surroundings) (now : Nat) (m : ChatMessage) : Books :=
  { b with
    history := b.history.push Store.wordHorizon m.userId (.ofTokens m.tokens) now
      (profileFor w m).settings.historyLife }

/-- The books without the history of a user. -/
def Books.forget (b : Books) (user : String) : Books := { b with history := (b.history.clear user).1 }

/-- How the books change when a check ends with a verdict that is based on this. -/
def Footprint (w : Surroundings) (now later : Nat) (m : ChatMessage) (b : Books) : Ground → Books → Prop
  | .nothing, c =>
    c = if (bypass? w m).isSome ∨ (profileFor w m).settings.enabled = false then b else b.say w now m
  | .bannedWord, c | .advertising, c | .longWord, c => c = b
  | .rule name, c =>
    ∃ rule ∈ w.snapshot.rules, rule.name = name ∧
      c = { b with rules := marked b.rules (name ++ ":" ++ m.userId) now rule.resetWindow }
  | .emoteCeiling, c =>
    c = { b.say w now m with
      emotes := marked b.emotes m.userId later (resetWindow (profileFor w m).settings.emote.resetSeconds) }
  | .emoteRepeats, c =>
    c = { (b.say w now m).forget m.userId with
      emotes := marked b.emotes m.userId later (resetWindow (profileFor w m).settings.emote.resetSeconds) }
  | .textRepeats, c =>
    c = { (b.say w now m).forget m.userId with
      spam := marked b.spam m.userId later (resetWindow (profileFor w m).settings.resetSeconds) }
  | .exception name, c =>
    ∃ e ∈ (profileFor w m).exceptions ++ (profileFor w m).emoteExceptions, e.rule.name = name ∧
      c = { (b.say w now m).forget m.userId with
        exceptions := marked b.exceptions (name ++ ":" ++ m.userId) later e.rule.resetWindow }

/-! ### Findings -/

theorem mem_of_firstWith {α : Type} {test : α → Nat → Bool × List Question} {position : Nat}
    {questions : List Question} {l : List α} {i : Nat} {a : α}
    (h : (firstWith test position questions l).1 = some (i, a)) : a ∈ l ∧ ∃ asked, (test a asked).1 = true := by
  induction l generalizing position questions with
  | nil => cases h
  | cons x l ih =>
    rw [firstWith] at h
    dsimp only at h
    split at h
    · rename_i hx
      cases h
      exact ⟨List.mem_cons_self, _, hx⟩
    · obtain ⟨hm, hasked⟩ := ih h
      exact ⟨List.mem_cons_of_mem _ hm, hasked⟩

theorem mem_of_brokenRule {w : Surroundings} {m : ChatMessage} {position : Nat} {rule : Rule}
    (h : (brokenRule w m).1 = some (position, rule)) : rule ∈ w.snapshot.rules ∧ rule.punishments ≠ [] := by
  obtain ⟨hm, asked, htest⟩ := mem_of_firstWith h
  refine ⟨hm, fun he => ?_⟩
  simp [he] at htest

/-- What the exception of a case, if there is one, is an exception of. -/
theorem mem_of_spamCase {w : Surroundings} {m : ChatMessage} {questions : List Question} {e : SpamException}
    (h : (spamCase w m questions).1.exception = some e) :
    e ∈ (profileFor w m).exceptions ++ (profileFor w m).emoteExceptions := by
  obtain ⟨⟨i, e'⟩, he, rfl⟩ := Option.map_eq_some_iff.1 h
  obtain ⟨hm, -⟩ := mem_of_firstWith he
  split at hm
  · exact List.mem_append_right _ hm
  · exact List.mem_append_left _ hm

/-- What is found about a message, and what that says about the message. -/
theorem find_cases (w : Surroundings) (m : ChatMessage) :
    (∃ reason, (find w m).1 = .bypassed reason ∧ bypass? w m = some reason) ∨
    bypass? w m = none ∧
      ((∃ word, (find w m).1 = .bannedWord word) ∨ (∃ channel, (find w m).1 = .advertising channel) ∨
        (∃ p, (find w m).1 = .wordTooLong p) ∨
        (∃ position rule, (find w m).1 = .ruleBroken position rule ∧ rule ∈ w.snapshot.rules ∧
          rule.punishments ≠ []) ∨
        ((find w m).1 = .unwatched ∧ (profileFor w m).settings.enabled = false) ∨
        (∃ questions, (find w m).1 = .watched (spamCase w m questions).1 ∧
          (profileFor w m).settings.enabled = true)) := by
  unfold find
  split
  · rename_i reason h
    exact .inl ⟨reason, rfl, h⟩
  · rename_i hbypass
    refine .inr ⟨hbypass, ?_⟩
    split
    · exact .inl ⟨_, rfl⟩
    · split
      · exact .inr (.inl ⟨_, rfl⟩)
      · split
        · rename_i position rule questions h
          exact .inr (.inr (.inr (.inl ⟨position, rule, rfl, mem_of_brokenRule (congrArg Prod.fst h)⟩)))
        · split
          · exact .inr (.inr (.inl ⟨_, rfl⟩))
          · split
            · rename_i h
              exact .inr (.inr (.inr (.inr (.inr ⟨_, rfl, h⟩))))
            · rename_i h
              exact .inr (.inr (.inr (.inr (.inl ⟨rfl, by simpa using h⟩))))

/-! ### Checks -/

/-- What the verdict under a policy is based on. -/
def Penalty.ground : Penalty → Ground
  | exception e => .exception e.rule.name
  | emoteCeiling => .emoteCeiling
  | emoteRepeats => .emoteRepeats
  | textRepeats => .textRepeats

theorem Penalty.reason_eq (p : Penalty) : p.reason = p.ground.reason := by
  cases p <;> rfl

theorem Penalty.ground_ne (p : Penalty) : p.ground ≠ .nothing := by
  cases p <;> nofun

theorem Ground.explains_ofPunishment {g : Ground} (hg : g ≠ .nothing) (tier : Punishment) :
    g.Explains (.ofPunishment tier g.reason) := by
  have hkind : tier.action.verdictKind ≠ .none := by cases tier.action <;> nofun
  exact ⟨rfl, fun h => absurd h hkind, fun h => absurd h hg⟩

theorem Ground.explains_ban {g : Ground} (hg : g ≠ .nothing) : g.Explains (.ban g.reason) :=
  ⟨rfl, nofun, fun h => absurd h hg⟩

theorem Ground.explains_none : Ground.nothing.Explains .none := ⟨rfl, fun _ => rfl, fun _ => rfl⟩

theorem exception_of_penalty {c : SpamCase} {n : Nat} {e : SpamException} (h : c.penalty? n = some (.exception e)) :
    c.exception = some e := by
  unfold SpamCase.penalty? at h
  split at h
  · rename_i e' he'
    split at h
    · cases h
    · cases h
      exact he'
  · dsimp only at h
    repeat' split at h
    all_goals cases h

/-- The change of the books by a section that ends with a punishment. -/
theorem footprint_punish (w : Surroundings) (now later : Nat) (m : ChatMessage) (b : Books)
    {questions : List Question} {n : Nat} {p : Penalty} (hp : (spamCase w m questions).1.penalty? n = some p) :
    Footprint w now later m b p.ground
      ((if p.clearsHistory then (b.say w now m).forget m.userId else b.say w now m).mark
        (spamCase w m questions).1 p m.userId later) := by
  cases p with
  | exception e => exact ⟨e, mem_of_spamCase (exception_of_penalty hp), rfl, rfl⟩
  | emoteCeiling => rfl
  | emoteRepeats => rfl
  | textRepeats => rfl

/-- The check of a message that is compared with the history of its sender. -/
theorem check_watched {r : Records} {b : Books} (h : r.Represents b) {w : Surroundings} (now later : Nat)
    {m : ChatMessage} {questions : List Question} (hf : (find w m).1 = .watched (spamCase w m questions).1)
    (hbypass : bypass? w m = none) (henabled : (profileFor w m).settings.enabled = true) :
    ∃ g c r' v, r.perform (.check w now later m) = (r', some v) ∧ g.Explains v ∧ Footprint w now later m b g c ∧
      r'.Represents c := by
  let s : Section := ⟨0, w, m, now, (spamCase w m questions).1⟩
  have hs : s.Fits := hf
  have hsaid : Footprint w now later m b .nothing (b.say w now m) := by
    rw [Footprint, if_neg]
    simp [hbypass, henabled]
  have hpush := h.history.push s
  cases hp : s.spam.penalty? (s.repeats r.history) with
  | none =>
    have hrun := Section.perform_acquit hs r later hp
    have hv := h.violations
    exact ⟨.nothing, b.say w now m, _, _, hrun, Ground.explains_none, hsaid, hpush, hv.spam, hv.emotes,
      hv.exceptions, hv.rules⟩
  | some p =>
    rcases he : s.spam.escalate p s.message.userId later r.violations with ⟨v, _ | tier⟩
    -- the policy has no tiers: the message has been put into the history, and that is all
    · have hrun := Section.perform_pardon hs hp he
      have hv := h.violations.escalate_none he
      exact ⟨.nothing, b.say w now m, _, _, hrun, Ground.explains_none, hsaid, hpush, hv.spam, hv.emotes,
        hv.exceptions, hv.rules⟩
    · have hrun := Section.perform_punish hs hp he
      have hv := h.violations.escalate_some he
      have hpunish := h.history.punish s p
      refine ⟨p.ground, _, _, _, hrun, ?_, footprint_punish w now later m b hp, ?_⟩
      · rw [p.reason_eq]
        exact Ground.explains_ofPunishment p.ground_ne tier
      · cases p with
        | _ => exact ⟨hpunish, hv.spam, hv.emotes, hv.exceptions, hv.rules⟩

theorem check_of_perform {r r' : Records} (w : Surroundings) (now later : Nat) (m : ChatMessage) {v : Verdict}
    (h : r.perform (.check w now later m) = (r', some v)) :
    (check r w now later m).1 = r' ∧ (check r w now later m).2.1 = v :=
  ⟨(Prod.mk.inj h).1, Option.some.inj (Prod.mk.inj h).2⟩

/-- A check of a message changes the books in a way that its verdict tells. -/
theorem perform_footprint {r : Records} {b : Books} (h : r.Represents b) (w : Surroundings) (now later : Nat)
    (m : ChatMessage) :
    ∃ g c r' v, r.perform (.check w now later m) = (r', some v) ∧ g.Explains v ∧ Footprint w now later m b g c ∧
      r'.Represents c := by
  rcases find_cases w m with ⟨reason, hf, hb⟩ | ⟨hb, ⟨word, hf⟩ | ⟨channel, hf⟩ | ⟨p, hf⟩ |
    ⟨position, rule, hf, hm, hp⟩ | ⟨hf, he⟩ | ⟨questions, hf, he⟩⟩
  · refine ⟨.nothing, b, r, .none, perform_conclude r now later (by rw [hf]; rfl), Ground.explains_none, ?_, h⟩
    rw [Footprint, if_pos (.inl (by rw [hb]; rfl))]
  · have hrun : r.perform (.check w now later m) = (r, some (.ban (Ground.reason .bannedWord))) :=
      perform_conclude r now later (by rw [hf]; rfl)
    exact ⟨.bannedWord, b, r, _, hrun, Ground.explains_ban nofun, rfl, h⟩
  · have hrun : r.perform (.check w now later m) = (r, some (.ban (Ground.reason .advertising))) :=
      perform_conclude r now later (by rw [hf]; rfl)
    exact ⟨.advertising, b, r, _, hrun, Ground.explains_ban nofun, rfl, h⟩
  · have hrun : r.perform (.check w now later m) = (r, some (.ofPunishment p (Ground.reason .longWord))) :=
      perform_conclude r now later (by rw [hf]; rfl)
    exact ⟨.longWord, b, r, _, hrun, Ground.explains_ofPunishment (g := .longWord) nofun p, rfl, h⟩
  · rcases he : r.violations.rules.escalate (rule.violationKey m.userId) rule.punishments rule.resetWindow now with
      ⟨rules, _ | tier⟩
    -- a rule that is found to be broken has tiers
    · have htier := (h.violations.rules.escalate (rule.violationKey m.userId) rule.punishments rule.resetWindow now).1
      have hsome := isSome_pickTier hp (b.rules.count (rule.violationKey m.userId))
      rw [← htier, he] at hsome
      cases hsome
    · have hv : (Ground.rule rule.name).Explains (ruleVerdict rule (some tier)) :=
        Ground.explains_ofPunishment (g := .rule rule.name) nofun tier
      exact ⟨.rule rule.name, _, _, _, perform_rule later hf he, hv, ⟨rule, hm, rfl, rfl⟩, h.history,
        h.violations.spam, h.violations.emotes, h.violations.exceptions, h.violations.rules.escalate_some he⟩
  · refine ⟨.nothing, b, r, .none, perform_conclude r now later (by rw [hf]; rfl), Ground.explains_none, ?_, h⟩
    rw [Footprint, if_pos (.inr he)]
  · exact check_watched h now later hf hb he

/--
A check of a message changes the books in exactly one way, which its verdict tells.  The other stores, and the other
keys of the stores that change, are left as they are.
-/
theorem check_footprint {r : Records} {b : Books} (h : r.Represents b) (w : Surroundings) (now later : Nat)
    (m : ChatMessage) :
    ∃ g c, (∀ other : Ground, other.Explains (check r w now later m).2.1 ↔ other = g) ∧
      Footprint w now later m b g c ∧ (check r w now later m).1.Represents c := by
  obtain ⟨g, c, r', v, hrun, hg, hc, hr⟩ := perform_footprint h w now later m
  obtain ⟨rfl, rfl⟩ := check_of_perform _ _ _ _ hrun
  exact ⟨g, c, fun other => ⟨fun ho => hg.eq ho, fun he => he ▸ hg⟩, hc, hr⟩

/-- A repeated message leaves a violation, and nothing in the history. -/
theorem check_footprint_greeting :
    emptyRecords.Represents ⟨[], [], [], [], []⟩ ∧
      ∃ c, Footprint strictSurroundings 5 3 (greeting {}) ⟨[], [], [], [], []⟩ .textRepeats c ∧
        (check emptyRecords strictSurroundings 5 3 (greeting {})).1.Represents c := by
  have hempty : emptyRecords.Represents ⟨[], [], [], [], []⟩ := represents_empty _ _
  have hescalate : strictCase.escalate .textRepeats "7" 3 emptyRecords.violations = (_, some .delete) := rfl
  have hfind : (find strictSurroundings (greeting {})).1 = .watched strictCase := rfl
  have hrun := Section.perform_punish (s := ⟨0, strictSurroundings, greeting {}, 5, strictCase⟩) hfind
    (strictCase_penalty _) hescalate
  have hverdict := (check_of_perform strictSurroundings 5 3 (greeting {}) hrun).2
  obtain ⟨g, c, hg, hc, hr⟩ := check_footprint hempty strictSurroundings 5 3 (greeting {})
  rw [hverdict] at hg
  obtain rfl := (hg .textRepeats).1 (Ground.explains_ofPunishment (g := .textRepeats) nofun .delete)
  exact ⟨hempty, c, hc, hr⟩

/-! ### Desks -/

/-- Whatever happens at a desk, its records represent some books. -/
theorem Desk.run_represents {d : Desk} {b : Books} (h : d.records.Represents b) (occurrences : List Occurrence) :
    ∃ c, (d.run occurrences).1.records.Represents c := by
  induction occurrences generalizing d b with
  | nil => exact ⟨b, h⟩
  | cons o occurrences ih =>
    cases o with
    | message m =>
      obtain ⟨-, c, r', v, hrun, -, -, hr⟩ := perform_footprint h d.surroundings d.now d.now m
      obtain ⟨rfl, -⟩ := check_of_perform _ _ _ _ hrun
      exact ih (d := (d.handle m).1) hr
    | clock now => exact ih (d := { d with now }) h
    | reclaim => exact ih (d := { d with records := (d.records.reclaim d.now).1 }) (h.reclaim d.now)
    | snapshot s => exact ih (d := d.useSnapshot s) h
    | live isLive => exact ih (d := d.setLive isLive) h
    | forget user =>
      have hv := h.violations
      exact ih (d := { d with records := { d.records with history := (d.records.history.clear user).1 } })
        (b := b.forget user) ⟨h.history.clear user, hv.spam, hv.emotes, hv.exceptions, hv.rules⟩

end ChatModeration.Moderation
