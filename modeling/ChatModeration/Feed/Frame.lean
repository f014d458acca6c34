import ChatModeration.Json.Decode
import ChatModeration.Json.Read

/-!
# Frames of the event feed

A frame is a text in JSON that says what kind of message it is and carries a payload (`Frame.read`).  Fields are read
in the order of the text, so of several problems the one that comes first is reported.
-/

namespace ChatModeration.Feed

open Json (Fault Outline Ending ShapeError)

/-- Why a frame cannot be decoded. -/
inductive DecodeError where
  /-- The text is not JSON. -/
  | fault (f : Fault)
  /-- The text is JSON of another shape. -/
  | shape (e : ShapeError)
  /-- A part is missing that the kind of the frame calls for. -/
  | missing (part : String)
deriving DecidableEq, Repr

/-- The message for a part that is missing. -/
def missingMessage (part : String) : String := "frame is missing " ++ part

/-- A frame: its kind, the kind of the subscription if it is told, and the payload. -/
structure Frame where
  messageType : String
  subscriptionType : Option String
  payload : Json
deriving Repr

/-- The error for a value that is not what is expected at its place. -/
def unexpected {α : Type} (expected : String) : Outline → Except DecodeError α
  | .null => .error (.shape (.invalidType .null expected))
  | .bool b => .error (.shape (.invalidType (.bool b) expected))
  | .number (some (.integer n)) => .error (.shape (.invalidType (.integer n) expected))
  | .number (some (.float x)) => .error (.shape (.invalidType (.float x) expected))
  | .number none => .error (.fault .malformed)
  | .string (some s) => .error (.shape (.invalidType (.string s) expected))
  | .string none => .error (.fault .malformed)
  | .array _ _ => .error (.shape (.invalidType .sequence expected))
  | .object _ _ => .error (.shape (.invalidType .map expected))
  | .broken how => .error (.fault how.reading)

/-- A text at its place. -/
def readText : Outline → Except DecodeError String
  | .string (some s) => .ok s
  | o => unexpected "a string" o

/-- A text or `null` at its place. -/
def readOptionalText : Outline → Except DecodeError (Option String)
  | .null => .ok none
  | o => (readText o).map some

/-- A value at its place, inside an object or array. -/
def readPayload (o : Outline) : Except DecodeError Json :=
  (Json.ofOutline (Json.depthLimit - 1) o).mapError .fault

/-- The next item of an array, if there is one. -/
def nextItem (items : List Outline) (ending : Ending) : Except DecodeError (Option Outline × List Outline) :=
  match items, ending with
  | o :: os, _ => .ok (some o, os)
  | [], .closed => .ok (none, [])
  | [], .cut how | [], .cutAtItem how => .error (.fault how.reading)

/-- Checks that an array ends after the items that were read. -/
def endItems (items : List Outline) (ending : Ending) : Except DecodeError Unit :=
  match items, ending with
  | [], .closed => .ok ()
  | [], .cut how => .error (.fault how.reading)
  | _, _ => .error (.fault .malformed)

/-- A record of two fields as it is read: its name, the names of the fields, and how to read each. -/
structure Pair (α β : Type) where
  name : String
  firstName : String
  secondName : String
  readFirst : Outline → Except DecodeError α
  readSecond : Outline → Except DecodeError β
  /-- What counts where the second field is missing. -/
  secondDefault : β

namespace Pair

variable {α β : Type}

/-- Reads the members of an object that are left. -/
def readMembers (p : Pair α β) (first : Option α) (second : Option β) (cut : Option Json.Break) :
    List (Option String × Outline) → Except DecodeError (α × β)
  | [] =>
    match cut, first with
    | some how, _ => .error (.fault how.reading)
    | none, none => .error (.shape (.missingField p.firstName))
    | none, some a => .ok (a, second.getD p.secondDefault)
  | (none, _) :: _ => .error (.fault .malformed)
  | (some key, o) :: rest => do
    if key = p.firstName then
      if first.isSome then throw (.shape (.duplicateField key))
      readMembers p (some (← p.readFirst o)) second cut rest
    else if key = p.secondName then
      if second.isSome then throw (.shape (.duplicateField key))
      readMembers p first (some (← p.readSecond o)) cut rest
    else
      o.skip.mapError .fault
      readMembers p first second cut rest

/-- Reads the items of an array. -/
def readItems (p : Pair α β) (items : List Outline) (ending : Ending) : Except DecodeError (α × β) := do
  let (item, items) ← nextItem items ending
  match item with
  | none => throw (.shape (.invalidLength 0 (p.name ++ " with 2 elements")))
  | some o =>
    let a ← p.readFirst o
    let (item, items) ← nextItem items ending
    let b ← match item with
      | none => pure p.secondDefault
      | some o => p.readSecond o
    endItems items ending
    return (a, b)

/-- Reads the record. -/
def read (p : Pair α β) : Outline → Except DecodeError (α × β)
  | .object members cut => p.readMembers none none cut members
  | .array items ending => p.readItems items ending
  | o => unexpected p.name o

end Pair

/-- What a frame says about itself: its kind and the kind of the subscription. -/
def metadata : Pair String (Option String) where
  name := "struct Metadata"
  firstName := "message_type"
  secondName := "subscription_type"
  readFirst := readText
  readSecond := readOptionalText
  secondDefault := none

/-- A frame: what it says about itself, and the payload. -/
def envelope : Pair (String × Option String) Json where
  name := "struct Frame"
  firstName := "metadata"
  secondName := "payload"
  readFirst := metadata.read
  readSecond := readPayload
  secondDefault := .null

/-- The frame that a text holds. -/
def Frame.read (text : String) : Except DecodeError Frame := do
  let (outline, more) := Outline.ofText text
  let ((messageType, subscriptionType), payload) ← envelope.read outline
  if more then throw (.fault .malformed)
  return ⟨messageType, subscriptionType, payload⟩

end ChatModeration.Feed
