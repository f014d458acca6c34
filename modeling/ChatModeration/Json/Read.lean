import ChatModeration.Json.Outline
import ChatModeration.Json.Value

/-!
# Reading JSON texts

`Json.read` reads a text that holds one value.  Arrays and objects may be nested at most 127 deep; numbers must be in
range and escaped surrogates come in pairs.
-/

namespace ChatModeration.Json

/-- How deep arrays and objects may be nested. -/
def depthLimit : Nat := 127

mutual

/-- The value of an outline, in which at most `depth` arrays and objects may be nested. -/
def ofOutline (depth : Nat) : Outline → Except Fault Json
  | .null => return .null
  | .bool b => return .bool b
  | .number (some n) => return .number n
  | .number none => throw .malformed
  | .string (some s) => return .string s
  | .string none => throw .malformed
  | .array items ending => do
    if depth = 0 then throw .malformed
    let values ← ofItems (depth - 1) items
    match ending with
    | .closed => return .array values
    | .cut how | .cutAtItem how => throw how.reading
  | .object members cut => do
    if depth = 0 then throw .malformed
    let values ← ofOutlines (depth - 1) members
    match cut with
    | none => return ofMembers values
    | some how => throw how.reading
  | .broken how => throw how.reading

/-- The values of the items of an array. -/
def ofItems (depth : Nat) : List Outline → Except Fault (List Json)
  | [] => return []
  | o :: os => do
    let v ← ofOutline depth o
    return v :: (← ofItems depth os)

/-- The members of an object, in the order of the text. -/
def ofOutlines (depth : Nat) : List (Option String × Outline) → Except Fault (List (String × Json))
  | [] => return []
  | (none, _) :: _ => throw .malformed
  | (some k, o) :: os => do
    let v ← ofOutline depth o
    return (k, v) :: (← ofOutlines depth os)

end

/-- The value that a text holds. -/
def read (s : String) : Except Fault Json := do
  let (outline, more) := Outline.ofText s
  let value ← ofOutline depthLimit outline
  if more then throw .malformed
  return value

end ChatModeration.Json
