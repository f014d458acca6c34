import ChatModeration.Proofs.Moderation.Sections
import ChatModeration.Proofs.Store.Refinement

/-!
# Books

The books (`Books`) are one ledger for each store of the records, and records that have only been used through the
operations of their stores represent books (`Records.Represents`).  What an escalation and what a section do to the
records, they do to the books.
-/

namespace ChatModeration.Moderation

open Store (Ledger Work)

/-- A ledger for each store. -/
structure Books where
  history : Ledger String (Fingerprint String)
  spam : Ledger String Unit
  emotes : Ledger String Unit
  exceptions : Ledger String Unit
  rules : Ledger String Unit

/-- The store represents the ledger, and its clock counts seconds in a signed word. -/
structure Keeps {τ : Type} (s : Store String τ) (l : Ledger String τ) : Prop where
  horizon : s.horizon = Store.wordHorizon
  represents : s.Represents l

/-- The stores of the violations represent their ledgers. -/
structure ViolationRecords.Represents (v : ViolationRecords) (b : Books) : Prop where
  spam : Keeps v.spam b.spam
  emotes : Keeps v.emotes b.emotes
  exceptions : Keeps v.exceptions b.exceptions
  rules : Keeps v.rules b.rules

/-- All stores represent their ledgers. -/
structure Records.Represents (r : Records) (b : Books) : Prop where
  history : Keeps r.history b.history
  violations : r.violations.Represents b

/-- The ledger with one more violation under a key. -/
def marked (l : Ledger String Unit) (key : String) (now window : Nat) : Ledger String Unit :=
  l.push Store.wordHorizon key () now window

/-! ### Stores -/

theorem keeps_empty {τ : Type} (name : String) (shardCount interval : Nat) (assign : String → Nat) :
    Keeps (Store.empty name shardCount interval Store.wordHorizon assign : Store String τ) [] :=
  ⟨rfl, Store.represents_empty name shardCount interval Store.wordHorizon assign⟩

/-- A section with exclusive access to a key. -/
theorem Keeps.withKey {τ α : Type} {s : Store String τ} {l : Ledger String τ} (h : Keeps s l) (key : String)
    (now : Nat) (w : Work String τ α) :
    Keeps (s.withKey key now w.run).1 (w.runOn Store.wordHorizon key now l).1 ∧
      (s.withKey key now w.run).2 = (w.runOn Store.wordHorizon key now l).2 := by
  have hw := h.represents.withKey key now w
  rw [h.horizon] at hw
  exact ⟨⟨h.horizon, hw.1⟩, hw.2⟩

theorem Keeps.clear {τ : Type} {s : Store String τ} {l : Ledger String τ} (h : Keeps s l) (key : String) :
    Keeps (s.clear key).1 (l.clear key).1 := ⟨h.horizon, (h.represents.clear key).1⟩

theorem Keeps.reclaim {τ : Type} {s : Store String τ} {l : Ledger String τ} (h : Keeps s l) (now : Nat) :
    Keeps (s.reclaim now).1 (l.reclaim now).1 :=
  ⟨(h.represents.reclaim now).2.2.trans h.horizon, (h.represents.reclaim now).1⟩

/-! ### Records -/

theorem represents_empty (settings : StoreSettings) (assign : String → Nat) :
    (Records.empty settings assign).Represents ⟨[], [], [], [], []⟩ :=
  ⟨keeps_empty .., keeps_empty .., keeps_empty .., keeps_empty .., keeps_empty ..⟩

theorem Records.Represents.reclaim {r : Records} {b : Books} (h : r.Represents b) (now : Nat) :
    (r.reclaim now).1.Represents
      ⟨(b.history.reclaim now).1, (b.spam.reclaim now).1, (b.emotes.reclaim now).1, (b.exceptions.reclaim now).1,
        (b.rules.reclaim now).1⟩ :=
  ⟨h.history.reclaim now, h.violations.spam.reclaim now, h.violations.emotes.reclaim now,
    h.violations.exceptions.reclaim now, h.violations.rules.reclaim now⟩

/-! ### Escalations -/

/-- What an escalation does while it holds a key. -/
def escalation (tiers : List Punishment) (window : Nat) : Work String Unit (Option Punishment) :=
  .count fun n =>
    match pickTier tiers n with
    | none => .done none
    | some tier => .push () window (.done (some tier))

theorem escalate_eq (v : Violations) (key : String) (tiers : List Punishment) (window now : Nat) :
    v.escalate key tiers window now = v.withKey key now (escalation tiers window).run := by
  rw [Violations.escalate]
  congr 1
  funext e
  rw [escalation, Work.run]
  cases pickTier tiers e.count <;> rfl

/-- An escalation finds the tier by the number of violations, and leaves one more if there is a tier. -/
theorem Keeps.escalate {v : Violations} {l : Ledger String Unit} (h : Keeps v l) (key : String)
    (tiers : List Punishment) (window now : Nat) :
    (v.escalate key tiers window now).2 = pickTier tiers (l.count key) ∧
      Keeps (v.escalate key tiers window now).1
        (if (pickTier tiers (l.count key)).isSome then marked l key now window else l) := by
  obtain ⟨hkeeps, hanswer⟩ := h.withKey key now (escalation tiers window)
  rw [escalate_eq]
  rw [escalation, Work.runOn] at hkeeps hanswer
  cases hp : pickTier tiers (l.count key) with
  | none =>
    rw [hp] at hkeeps hanswer
    exact ⟨hanswer, hkeeps⟩
  | some tier =>
    rw [hp] at hkeeps hanswer
    exact ⟨hanswer, hkeeps⟩

theorem Keeps.escalate_none {v v' : Violations} {l : Ledger String Unit} (h : Keeps v l) {key : String}
    {tiers : List Punishment} {window now : Nat} (he : v.escalate key tiers window now = (v', none)) :
    Keeps v' l := by
  obtain ⟨htier, hkeeps⟩ := h.escalate key tiers window now
  rw [he] at htier hkeeps
  rw [← htier] at hkeeps
  exact hkeeps

theorem Keeps.escalate_some {v v' : Violations} {l : Ledger String Unit} (h : Keeps v l) {key : String}
    {tiers : List Punishment} {window now : Nat} {tier : Punishment}
    (he : v.escalate key tiers window now = (v', some tier)) : Keeps v' (marked l key now window) := by
  obtain ⟨htier, hkeeps⟩ := h.escalate key tiers window now
  rw [he] at htier hkeeps
  rw [← htier] at hkeeps
  exact hkeeps

/-- A policy with tiers always has one for the next violation. -/
theorem isSome_pickTier {tiers : List Punishment} (h : tiers ≠ []) (n : Nat) : (pickTier tiers n).isSome := by
  have hlength := List.length_pos_of_ne_nil h
  rw [pickTier, List.getElem?_eq_getElem (by omega)]
  rfl

/-- The books with one more violation of a spam policy. -/
def Books.mark (b : Books) (c : SpamCase) (p : Penalty) (user : String) (now : Nat) : Books :=
  match p with
  | .exception e =>
    { b with exceptions := marked b.exceptions (e.rule.violationKey user) now e.rule.resetWindow }
  | .emoteCeiling | .emoteRepeats =>
    { b with emotes := marked b.emotes user now (resetWindow c.profile.settings.emote.resetSeconds) }
  | .textRepeats => { b with spam := marked b.spam user now (resetWindow c.profile.settings.resetSeconds) }

/-- An escalation without a tier leaves the books as they are. -/
theorem ViolationRecords.Represents.escalate_none {v v' : ViolationRecords} {b : Books} (h : v.Represents b)
    {c : SpamCase} {p : Penalty} {user : String} {now : Nat} (he : c.escalate p user now v = (v', none)) :
    v'.Represents b := by
  cases p with
  | exception e =>
    obtain ⟨rfl, ht⟩ := Prod.mk.inj he
    exact ⟨h.spam, h.emotes, h.exceptions.escalate_none (Prod.ext rfl ht), h.rules⟩
  | emoteCeiling | emoteRepeats =>
    obtain ⟨rfl, ht⟩ := Prod.mk.inj he
    exact ⟨h.spam, h.emotes.escalate_none (Prod.ext rfl ht), h.exceptions, h.rules⟩
  | textRepeats =>
    obtain ⟨rfl, ht⟩ := Prod.mk.inj he
    exact ⟨h.spam.escalate_none (Prod.ext rfl ht), h.emotes, h.exceptions, h.rules⟩

/-- An escalation with a tier leaves one more violation, in the store of its policy. -/
theorem ViolationRecords.Represents.escalate_some {v v' : ViolationRecords} {b : Books} (h : v.Represents b)
    {c : SpamCase} {p : Penalty} {user : String} {now : Nat} {tier : Punishment}
    (he : c.escalate p user now v = (v', some tier)) : v'.Represents (b.mark c p user now) := by
  cases p with
  | exception e =>
    obtain ⟨rfl, ht⟩ := Prod.mk.inj he
    exact ⟨h.spam, h.emotes, h.exceptions.escalate_some (Prod.ext rfl ht), h.rules⟩
  | emoteCeiling | emoteRepeats =>
    obtain ⟨rfl, ht⟩ := Prod.mk.inj he
    exact ⟨h.spam, h.emotes.escalate_some (Prod.ext rfl ht), h.exceptions, h.rules⟩
  | textRepeats =>
    obtain ⟨rfl, ht⟩ := Prod.mk.inj he
    exact ⟨h.spam.escalate_some (Prod.ext rfl ht), h.emotes, h.exceptions, h.rules⟩

/-! ### Sections -/

/-- The history that a section leaves when it puts its message in. -/
theorem Keeps.push {h : History} {l : Ledger String (Fingerprint String)} (hh : Keeps h l) (s : Section) :
    Keeps (s.replace h (s.pushedShard h))
      (l.push Store.wordHorizon s.message.userId s.spam.fingerprint s.now s.spam.profile.settings.historyLife) :=
  (hh.withKey s.message.userId s.now
    (.push s.spam.fingerprint s.spam.profile.settings.historyLife (.done ()))).1

/-- The history that a section leaves after a punishment. -/
theorem Keeps.punish {h : History} {l : Ledger String (Fingerprint String)} (hh : Keeps h l) (s : Section)
    (p : Penalty) :
    Keeps (s.replace h (s.punishedShard p h))
      (if p.clearsHistory then
        (Ledger.clear (l.push Store.wordHorizon s.message.userId s.spam.fingerprint s.now
          s.spam.profile.settings.historyLife) s.message.userId).1
      else l.push Store.wordHorizon s.message.userId s.spam.fingerprint s.now
        s.spam.profile.settings.historyLife) := by
  rw [Section.punishedShard]
  split
  · exact (hh.withKey s.message.userId s.now
      (.push s.spam.fingerprint s.spam.profile.settings.historyLife (.clear .done))).1
  · exact hh.push s

end ChatModeration.Moderation
