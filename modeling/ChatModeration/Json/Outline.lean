import ChatModeration.Json.Token

/-!
# Outlines of JSON texts

An outline is what a text says up to the place where it stops being JSON: values in the order of the text, repeated keys
included, and at the broken place the fault.  A reader who wants a typed value walks an outline and meets the first
problem of the text, be it one of form or one of content, at the place where it stands.
-/

namespace ChatModeration.Json

/-- How the items of an array end. -/
inductive Ending where
  | closed
  /-- Broken off where a comma or the end was expected. -/
  | cut (how : Break)
  /-- Broken off after a comma or at the very start, where an item was expected. -/
  | cutAtItem (how : Break)
deriving DecidableEq, Repr

/-- The outline of a JSON text. -/
inductive Outline where
  | null
  | bool (value : Bool)
  | number (value : Option Number)
  | string (value : Option String)
  | array (items : List Outline) (ending : Ending)
  /-- An object; a key is none if it has an unpaired surrogate. -/
  | object (members : List (Option String × Outline)) (cut : Option Break)
  /-- The text breaks off where a value was expected, or inside it. -/
  | broken (how : Break)
deriving Repr, Inhabited

namespace Outline

/-- What an open array waits for. -/
inductive ArrayPlace where
  | firstItem | item | afterItem
deriving DecidableEq, Repr

/-- What an open object waits for. -/
inductive ObjectPlace where
  | firstKey | key | colon (key : Option String) | value (key : Option String) | afterValue
deriving DecidableEq, Repr

/-- An array or object that is not closed yet, with its items so far in reverse order. -/
inductive Open where
  | array (items : List Outline) (place : ArrayPlace)
  | object (members : List (Option String × Outline)) (place : ObjectPlace)

/-- What is left when an open array or object breaks off. -/
def Open.breakOff (how : Break) : Open → Outline
  | .array items .afterItem => .array items.reverse (.cut how)
  | .array items _ => .array items.reverse (.cutAtItem how)
  | .object members (.colon key) | .object members (.value key) =>
    .object ((key, .broken how) :: members).reverse none
  | .object members _ => .object members.reverse (some how)

/-- An open array or object with a finished value put in. -/
def Open.put (value : Outline) : Open → Open
  | .array items _ => .array (value :: items) .afterItem
  | .object members (.value key) => .object ((key, value) :: members) .afterValue
  | .object members place => .object members place

/-- An array or object that ends with what it holds. -/
def Open.finish : Open → Outline
  | .array items _ => .array items.reverse .closed
  | .object members _ => .object members.reverse none

/-- The whole outline when the text breaks off inside the given open arrays and objects, innermost first. -/
def breakOff (how : Break) : List Open → Outline
  | [] => .broken how
  | o :: os => os.foldl (fun inner o => (o.put inner).finish) (o.breakOff how)

/-- What one token does to the open arrays and objects. -/
inductive Step where
  /-- The text goes on inside these. -/
  | inside (open_ : List Open)
  /-- A value is finished; it belongs into these. -/
  | value (v : Outline) (open_ : List Open)
  /-- The token cannot stand here. -/
  | break (how : Break)

/-- A token where a value is expected. -/
def stepValue (outer : List Open) : Token → Step
  | .null => .value .null outer
  | .bool b => .value (.bool b) outer
  | .number n => .value (.number n) outer
  | .string s => .value (.string s) outer
  | .openArray => .inside (.array [] .firstItem :: outer)
  | .openObject => .inside (.object [] .firstKey :: outer)
  | .broken how | .brokenString how => .break how
  | .closeArray | .closeObject | .comma | .colon => .break (.both .malformed)

/-- A token where a key is expected. -/
def stepKey (members : List (Option String × Outline)) (outer : List Open) : Token → Step
  | .string s => .inside (.object members (.colon s) :: outer)
  | .brokenString how => .break how
  | _ => .break (.both .malformed)

/-- A token inside the given open arrays and objects. -/
def step (token : Token) : List Open → Step
  | [] => stepValue [] token
  | .array items place :: outer =>
    match place, token with
    | .firstItem, .closeArray | .afterItem, .closeArray => .value (.array items.reverse .closed) outer
    | .afterItem, .comma => .inside (.array items .item :: outer)
    | .afterItem, _ => .break (.both .malformed)
    | _, _ => stepValue (.array items place :: outer) token
  | .object members place :: outer =>
    match place, token with
    | .firstKey, .closeObject | .afterValue, .closeObject => .value (.object members.reverse none) outer
    | .afterValue, .comma => .inside (.object members .key :: outer)
    | .afterValue, _ => .break (.both .malformed)
    | .colon key, .colon => .inside (.object members (.value key) :: outer)
    | .colon _, _ => .break (.both .malformed)
    | .value _, _ => stepValue (.object members place :: outer) token
    | _, _ => stepKey members outer token

/-- The outline that the tokens spell inside the given open arrays and objects, and the tokens after it. -/
def build (opened : List Open) : List Token → Outline × List Token
  | [] => (breakOff (.both .unfinished) opened, [])
  | token :: rest =>
    match step token opened with
    | .inside opened => build opened rest
    | .value v [] => (v, rest)
    | .value v (o :: outer) => build (o.put v :: outer) rest
    | .break how => (breakOff how opened, [])

/-- The outline of a text, and whether anything follows it. -/
def ofText (s : String) : Outline × Bool :=
  let (outline, rest) := build [] (tokens s)
  (outline, !rest.isEmpty)

mutual

/-- The fault that a reader meets who skips the text. -/
def skip : Outline → Except Fault Unit
  | .array items ending => do
    skipItems items
    match ending with
    | .closed => return ()
    | .cut how | .cutAtItem how => throw how.skipping
  | .object members cut => do
    skipMembers members
    match cut with
    | none => return ()
    | some how => throw how.skipping
  | .broken how => throw how.skipping
  | _ => return ()

/-- The fault that a reader meets who skips the items. -/
def skipItems : List Outline → Except Fault Unit
  | [] => return ()
  | o :: os => do
    skip o
    skipItems os

/-- The fault that a reader meets who skips the members. -/
def skipMembers : List (Option String × Outline) → Except Fault Unit
  | [] => return ()
  | (_, o) :: os => do
    skip o
    skipMembers os

end

end Outline

end ChatModeration.Json
