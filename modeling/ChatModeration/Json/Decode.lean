import ChatModeration.Binary64.Shortest
import ChatModeration.Json.Value
import ChatModeration.Text.Quoted

/-!
# Typed values from JSON values

A `Decoder` turns a JSON value into a value of a type or says why it does not fit (`ShapeError`), and it knows the
`Shape` of the values that it takes.  A record is decoded from an object, whose members may be missing where there is a
default, or from an array of its fields in order.  If several members do not fit, the error is that of the first one in
the object; a missing field is reported only if all members that are there fit.
-/

namespace ChatModeration.Json

/-- What a value is, as messages name it. -/
inductive Found where
  | null | map | sequence
  | bool (value : Bool)
  | integer (value : Int)
  | float (value : Binary64)
  | string (value : String)
deriving DecidableEq, Repr

/-- The words for what was found. -/
def Found.text : Found → String
  | null => "null"
  | map => "map"
  | sequence => "sequence"
  | bool b => "boolean `" ++ (if b then "true" else "false") ++ "`"
  | integer n => "integer `" ++ toString n ++ "`"
  | float x => "floating point `" ++ x.scientific ++ "`"
  | string s => "string " ++ Text.quoted s

/-- How a value fails to have a shape. -/
inductive ShapeError where
  | missingField (name : String)
  | duplicateField (name : String)
  | unknownVariant (name : String) (variants : List String)
  | invalidType (found : Found) (expected : String)
  | invalidValue (found : Found) (expected : String)
  | invalidLength (length : Nat) (expected : String)
deriving DecidableEq, Repr

/-- A list of alternatives in words. -/
def alternatives : List String → String
  | [a] => "`" ++ a ++ "`"
  | [a, b] => "`" ++ a ++ "` or `" ++ b ++ "`"
  | names => "one of " ++ ", ".intercalate (names.map fun a => "`" ++ a ++ "`")

/-- The message of a shape error. -/
def ShapeError.message : ShapeError → String
  | missingField name => "missing field `" ++ name ++ "`"
  | duplicateField name => "duplicate field `" ++ name ++ "`"
  | unknownVariant name variants => "unknown variant `" ++ name ++ "`, expected " ++ alternatives variants
  | invalidType found expected => "invalid type: " ++ found.text ++ ", expected " ++ expected
  | invalidValue found expected => "invalid value: " ++ found.text ++ ", expected " ++ expected
  | invalidLength length expected => "invalid length " ++ toString length ++ ", expected " ++ expected

/-- The shape of a value: of what kind it is and what parts it has. -/
inductive Shape where
  | any | text | flag | natural | real
  | list (item : Shape)
  /-- A value that may be none. -/
  | optional (item : Shape)
  | choice (names : List String)
  /-- A record, whose fields may also stand in an array. -/
  | record (fields : List (String × Shape))
  /-- A record with further fields among its own. -/
  | extendedRecord (own further : List (String × Shape))
deriving Repr, Inhabited

/-- A reader of typed values. -/
structure Decoder (α : Type) where
  shape : Shape
  decode : Json → Except ShapeError α

/-- What a value is, as messages name it. -/
def found : Json → Found
  | null => .null
  | bool b => .bool b
  | number (.integer n) => .integer n
  | number (.float x) => .float x
  | string s => .string s
  | array _ => .sequence
  | object _ => .map

/-- The error for a value of the wrong type. -/
def wrongType {α : Type} (v : Json) (expected : String) : Except ShapeError α :=
  .error (.invalidType v.found expected)

namespace Decoder

/-- A text. -/
def text : Decoder String where
  shape := .text
  decode
    | .string s => .ok s
    | v => wrongType v "a string"

/-- A truth value. -/
def flag : Decoder Bool where
  shape := .flag
  decode
    | .bool b => .ok b
    | v => wrongType v "a boolean"

/-- A natural number; `type` names it in messages. -/
def natural (type : String) : Decoder Nat where
  shape := .natural
  decode
    | .number (.integer n) => if 0 ≤ n then .ok n.toNat else .error (.invalidValue (.integer n) type)
    | v => wrongType v type

/-- A number of seconds, milliseconds or the like. -/
def word : Decoder Nat := natural "u64"

/-- A number of things. -/
def count : Decoder Nat := natural "usize"

/-- A floating point number; an integer is rounded to one. -/
def real : Decoder Binary64 where
  shape := .real
  decode
    | .number (.float x) => .ok x
    | .number (.integer n) => .ok (Binary64.ofRatio (n < 0) n.natAbs 1)
    | v => wrongType v "f64"

/-- Items of one type. -/
def list {α : Type} (item : Decoder α) : Decoder (List α) where
  shape := .list item.shape
  decode
    | .array items => items.mapM item.decode
    | v => wrongType v "a sequence"

/-- A value or `null` for none. -/
def optional {α : Type} (some' : Decoder α) : Decoder (Option α) where
  shape := .optional some'.shape
  decode
    | .null => .ok none
    | v => (some'.decode v).map some

/-- A value without structure. -/
def any : Decoder Json := ⟨.any, .ok⟩

/-- The value of a name. -/
def pick {α : Type} (variants : List (String × α)) (s : String) : Except ShapeError α :=
  match variants.lookup s with
  | some a => .ok a
  | none => .error (.unknownVariant s (variants.map Prod.fst))

/-- One of several names.  The name may also stand as the key of an object whose only value is `null`. -/
def choice {α : Type} (variants : List (String × α)) : Decoder α where
  shape := .choice (variants.map Prod.fst)
  decode
    | .string s => pick variants s
    | .object [(s, v)] => do
      let a ← pick variants s
      match v with
      | .null => .ok a
      | v => wrongType v "unit"
    | .object _ => .error (.invalidValue .map "map with a single key")
    | v => wrongType v "string or map"

end Decoder

/-! ### Records -/

/-- Why the fields of a record cannot be read from an object. -/
inductive FieldFault where
  /-- The member at this position does not fit. -/
  | unfit (position : Nat) (error : ShapeError)
  /-- A field without default is missing. -/
  | missing (name : String)

/-- The fault that counts if two fields have one: the first member that does not fit, else the first missing field. -/
def FieldFault.join : FieldFault → FieldFault → FieldFault
  | unfit i e, unfit j f => if i ≤ j then unfit i e else unfit j f
  | unfit i e, missing _ => unfit i e
  | missing _, unfit j f => unfit j f
  | missing a, missing _ => missing a

/-- The error of a fault. -/
def FieldFault.error : FieldFault → ShapeError
  | unfit _ e => e
  | missing name => .missingField name

/-- Some fields of a record: their names and shapes, and how to read them from an object and from an array. -/
structure Fields (α : Type) where
  shapes : List (String × Shape)
  ofMembers : List (String × Json) → Except FieldFault α
  /-- Reads the fields from the items at and after a position and returns the items that are left. -/
  ofItems : (expected : String) → (position : Nat) → List Json → Except ShapeError (α × List Json)

namespace Fields

variable {α β : Type}

/-- The number of fields. -/
def count (fs : Fields α) : Nat := fs.shapes.length

/-- One field.  Where it is missing the default counts, if there is one. -/
def field (name : String) (decoder : Decoder α) (default? : Option α) : Fields α where
  shapes := [(name, decoder.shape)]
  ofMembers members :=
    match members.findIdx? (fun m => m.1 == name), members.lookup name, default? with
    | some i, some v, _ => (decoder.decode v).mapError (.unfit i)
    | _, _, some a => .ok a
    | _, _, none => .error (.missing name)
  ofItems expected position items :=
    match items, default? with
    | v :: rest, _ => (decoder.decode v).map (·, rest)
    | [], some a => .ok (a, [])
    | [], none => .error (.invalidLength position expected)

/-- A field that must be there. -/
def required (name : String) (decoder : Decoder α) : Fields α := field name decoder none

/-- A field with a default. -/
def defaulted (name : String) (decoder : Decoder α) (a : α) : Fields α := field name decoder (some a)

/-- A field that is none where it is missing or `null`. -/
def optional (name : String) (decoder : Decoder α) : Fields (Option α) :=
  field name (Decoder.optional decoder) (some none)

/-- Two groups of fields, one after the other. -/
def both (f : Fields (α → β)) (a : Fields α) : Fields β where
  shapes := f.shapes ++ a.shapes
  ofMembers members :=
    match f.ofMembers members, a.ofMembers members with
    | .ok g, .ok x => .ok (g x)
    | .error e, .error e' => .error (e.join e')
    | .error e, .ok _ => .error e
    | .ok _, .error e => .error e
  ofItems expected position items := do
    let (g, items) ← f.ofItems expected position items
    let (x, items) ← a.ofItems expected (position + f.count) items
    return (g x, items)

/-- No fields. -/
def none (a : α) : Fields α where
  shapes := []
  ofMembers _ := .ok a
  ofItems _ _ items := .ok (a, items)

instance : Applicative Fields where
  pure := none
  seq f a := both f (a ())

/-- What messages expect where the array for a record is too short. -/
def expectedLength (name : String) (fs : Fields α) : String :=
  name ++ " with " ++ toString fs.count ++ (if fs.count = 1 then " element" else " elements")

/-- The record with the given fields; `name` names it in messages. -/
def record (name : String) (fs : Fields α) : Decoder α where
  shape := .record fs.shapes
  decode
    | .object members => (fs.ofMembers members).mapError FieldFault.error
    | .array items => do
      let (a, rest) ← fs.ofItems (expectedLength name fs) 0 items
      if rest.isEmpty then .ok a else .error (.invalidLength items.length "fewer elements in array")
    | v => wrongType v name

/-- A record with further fields among its own, which are looked at after them.  It is never an array. -/
def extendedRecord (name : String) (own : Fields (β → α)) (further : Fields β) : Decoder α where
  shape := .extendedRecord own.shapes further.shapes
  decode
    | .object members =>
      match own.ofMembers members, further.ofMembers members with
      | .ok f, .ok b => .ok (f b)
      | .error e, _ => .error e.error
      | .ok _, .error e => .error e.error
    | v => wrongType v name

end Fields

end ChatModeration.Json
