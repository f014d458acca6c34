import ChatModeration.Binary64.Shortest
import ChatModeration.Json.Value

/-!
# Writing JSON texts

`Json.write` writes a value on one line, in ASCII: other characters are written as escapes of their UTF-16 units.
-/

namespace ChatModeration.Json

/-- Four hexadecimal digits after a backslash and a `u`. -/
def unitEscape (n : Nat) : List Char :=
  let digits := Nat.toDigits 16 n
  ['\\', 'u'] ++ List.replicate (4 - digits.length) '0' ++ digits

/-- The UTF-16 units of a character. -/
def units (c : Char) : List Nat :=
  let n := c.toNat
  if n < 0x10000 then [n] else [0xD800 + (n - 0x10000) / 0x400, 0xDC00 + (n - 0x10000) % 0x400]

/-- A character of a written text. -/
def writeChar (c : Char) : List Char :=
  if c = '"' then ['\\', '"']
  else if c = '\\' then ['\\', '\\']
  else if 0x20 ≤ c.toNat ∧ c.toNat < 0x7F then [c]
  else (units c).flatMap unitEscape

/-- A written text. -/
def writeString (s : String) : String := String.ofList ('"' :: s.toList.flatMap writeChar ++ ['"'])

/-- A written number. -/
def writeNumber : Number → String
  | .integer n => toString n
  | .float x => x.scientific

mutual

/-- Writes a value. -/
def write : Json → String
  | null => "null"
  | bool b => if b then "true" else "false"
  | number n => writeNumber n
  | string s => writeString s
  | array items => "[" ++ ",".intercalate (writeItems items) ++ "]"
  | object members => "\x7b" ++ ",".intercalate (writeMembers members) ++ "\x7d"

/-- Writes the items of an array. -/
def writeItems : List Json → List String
  | [] => []
  | v :: vs => write v :: writeItems vs

/-- Writes the members of an object. -/
def writeMembers : List (String × Json) → List String
  | [] => []
  | (k, v) :: rest => (writeString k ++ ":" ++ write v) :: writeMembers rest

end

end ChatModeration.Json
