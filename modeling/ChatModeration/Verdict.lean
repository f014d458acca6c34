/-!
# Punishments and verdicts

A policy lists punishments (`Punishment`), one for each time it is violated; a verdict (`Verdict`) is the outcome for
one message.  The kinds of verdicts are ordered from harmless to permanent.
-/

namespace ChatModeration

/-- What a verdict does to a message or its sender. -/
inductive VerdictKind where
  | none | delete | timeout | ban
deriving DecidableEq, Repr

namespace VerdictKind

/-- The name of a kind. -/
def name : VerdictKind → String
  | none => "none"
  | delete => "delete"
  | timeout => "timeout"
  | ban => "ban"

/-- All kinds by name, from harmless to permanent. -/
def named : List (String × VerdictKind) :=
  [("none", none), ("delete", delete), ("timeout", timeout), ("ban", ban)]

/-- The place in the order of severity. -/
def severity : VerdictKind → Nat
  | none => 0
  | delete => 1
  | timeout => 2
  | ban => 3

end VerdictKind

/-- What a policy can do. -/
inductive PunishmentKind where
  | delete | timeout | ban
deriving DecidableEq, Repr

namespace PunishmentKind

/-- The name of a kind. -/
def name : PunishmentKind → String
  | delete => "delete"
  | timeout => "timeout"
  | ban => "ban"

/-- All kinds by name. -/
def named : List (String × PunishmentKind) := [("delete", delete), ("timeout", timeout), ("ban", ban)]

/-- The kind of verdict that carries the punishment out. -/
def verdictKind : PunishmentKind → VerdictKind
  | delete => .delete
  | timeout => .timeout
  | ban => .ban

end PunishmentKind

/-- One tier of a policy. -/
structure Punishment where
  action : PunishmentKind
  /-- The length of a timeout in seconds; it means nothing for other actions. -/
  seconds : Nat := 0
deriving DecidableEq, Repr

namespace Punishment

/-- Deletes the message. -/
def delete : Punishment := ⟨.delete, 0⟩

/-- Silences the sender for some seconds. -/
def timeout (seconds : Nat) : Punishment := ⟨.timeout, seconds⟩

/-- Bans the sender. -/
def ban : Punishment := ⟨.ban, 0⟩

/-- The length of a timeout in milliseconds. -/
def duration (p : Punishment) : Option Nat :=
  match p.action with
  | .timeout => some (p.seconds * 1000)
  | _ => none

end Punishment

/-- The outcome for one message. -/
structure Verdict where
  kind : VerdictKind
  reason : String
  /-- The length of a timeout in milliseconds. -/
  duration : Option Nat
deriving DecidableEq, Repr

namespace Verdict

/-- Nothing is done. -/
def none : Verdict := ⟨.none, "", .none⟩

/-- The sender is banned. -/
def ban (reason : String) : Verdict := ⟨.ban, reason, .none⟩

/-- A punishment is carried out. -/
def ofPunishment (p : Punishment) (reason : String) : Verdict := ⟨p.action.verdictKind, reason, p.duration⟩

/-- Whether nothing is done. -/
def isNone (v : Verdict) : Bool := v.kind == .none

end Verdict

end ChatModeration
