import ChatModeration.Json.Decode
import ChatModeration.Yaml.Literal
import ChatModeration.Yaml.Node

/-!
# JSON values from YAML values

A YAML text does not say of what type its scalars are: the shape that is expected decides how a scalar is read.
`Node.toJson?` gives the JSON value that a YAML value stands for where a given shape is expected.
-/

namespace ChatModeration.Yaml

open Json (Shape)

namespace Node

/-- Whether a value is left out. -/
def isBlank : Node → Bool
  | scalar _ .plain "" => true
  | _ => false

/-- Whether a value, which may be none, is none. -/
def isNone : Node → Bool
  | scalar none .plain s => s == "" || isNullText s
  | scalar (some tag) .plain s => tag == basicTag "null" && isNullText s
  | _ => false

/-- The name in a tag that a text gives a meaning of its own. -/
def localName? (tag : Option String) : Option String :=
  tag.bind fun t =>
    match t.toList with
    | ['!'] => some "!"
    | '!' :: cs => some (String.ofList cs)
    | _ => none

/-- The name that a value stands for where one of several names is expected.  It is a scalar or the tag of nothing. -/
def choice? : Node → Option String
  | scalar tag style s =>
    match localName? tag with
    | none => some s
    | some name => if style == .plain && (s == "" || isNullText s) then some name else none
  | _ => none

/-- The text of a scalar. -/
def text? : Node → Option String
  | scalar _ _ s => some s
  | _ => none

mutual

/-- Whether a value has a meaning where nothing is expected of it: it has no tag of its own. -/
def isPlainValue : Node → Bool
  | scalar tag _ _ => (localName? tag).isNone
  | sequence tag items => (localName? tag).isNone && arePlainValues items
  | mapping tag entries => (localName? tag).isNone && arePlainEntries entries
  | endless => false

/-- Whether all of some values have a meaning. -/
def arePlainValues : List Node → Bool
  | [] => true
  | n :: ns => n.isPlainValue && arePlainValues ns

/-- Whether all keys and values of some entries have a meaning. -/
def arePlainEntries : List (Node × Node) → Bool
  | [] => true
  | (k, v) :: es => k.isPlainValue && v.isPlainValue && arePlainEntries es

end

/-- Whether a value of the shape may be none. -/
def mayBeNone : Shape → Bool
  | .optional _ => true
  | _ => false

/-- The shape of a value that is not none. -/
def present : Shape → Shape
  | .optional item => present item
  | shape => shape

/-- Entries as the members of an object, unless a key stands there twice. -/
def objectOf? (members : List (String × Json)) : Option Json :=
  if (members.map Prod.fst).Nodup then some (.ofMembers members) else none

mutual

/-- The JSON value that a value stands for where a shape is expected. -/
def toJson? (shape : Shape) (n : Node) : Option Json :=
  if mayBeNone shape && n.isNone then some .null
  else
    match present shape, n with
    | .text, n => n.text?.map .string
    | .choice _, n => n.choice?.map .string
    | .flag, scalar tag style s => if isOpen "bool" tag style then (flag? s).map .bool else none
    | .natural, scalar tag style s =>
      if isOpen "int" tag style then (natural? s).map fun i => .number (.integer i) else none
    | .real, scalar tag style s =>
      if isOpen "float" tag style then (real? s).map fun x => .number (.float x) else none
    | .list item, sequence _ items => (listToJson? item items).map .array
    | .list _, n => if n.isBlank then some (.array []) else none
    | .record fields, mapping _ entries => (entriesToJson? false fields entries).bind objectOf?
    | .record fields, sequence _ items => (itemsToJson? fields items).map .array
    | .record _, n => if n.isBlank then some (.object []) else none
    | .extendedRecord own further, mapping _ entries =>
      (entriesToJson? true (own ++ further) entries).bind objectOf?
    | .extendedRecord _ _, n => if n.isBlank then some (.object []) else none
    | _, _ => none

/-- The JSON values of items of one shape. -/
def listToJson? (item : Shape) : List Node → Option (List Json)
  | [] => some []
  | n :: ns => do return (← toJson? item n) :: (← listToJson? item ns)

/-- The JSON values of items that are the fields of a record. -/
def itemsToJson? : List (String × Shape) → List Node → Option (List Json)
  | _, [] => some []
  | [], _ :: _ => none
  | (_, shape) :: fields, n :: ns => do return (← toJson? shape n) :: (← itemsToJson? fields ns)

/-- The members of a record.  Entries that are no fields do not count; if `keep`, they must have a meaning. -/
def entriesToJson? (keep : Bool) (fields : List (String × Shape)) :
    List (Node × Node) → Option (List (String × Json))
  | [] => some []
  | (k, v) :: entries => do
    let name ← k.text?
    match fields.lookup name with
    | some shape => return (name, ← toJson? shape v) :: (← entriesToJson? keep fields entries)
    | none => if keep && !v.isPlainValue then none else entriesToJson? keep fields entries

end

end Node

/-- The value of a YAML text, read as the decoder expects it. -/
def decode? {α : Type} (decoder : Json.Decoder α) (text : String) : Option α := do
  let json ← (← Node.read? text).toJson? decoder.shape
  (decoder.decode json).toOption

end ChatModeration.Yaml
