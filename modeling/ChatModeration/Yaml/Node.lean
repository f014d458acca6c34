import ChatModeration.Yaml.Token.Lexer

/-!
# The value of a YAML text

`Node.read?` reads a text that holds one document.  An alias counts as the value that its anchor names, and a tag is
written out.  A value that contains itself has no finite form; it is replaced by `Node.endless`.
-/

namespace ChatModeration.Yaml

/-- A value of a YAML text. -/
inductive Node where
  | scalar (tag : Option String) (style : Style) (text : String)
  | sequence (tag : Option String) (items : List Node)
  | mapping (tag : Option String) (entries : List (Node × Node))
  /-- Stands for the value around it. -/
  | endless
deriving Inhabited

/-- The value of a place where nothing stands. -/
def Node.nothing : Node := .scalar none .plain ""

/-- What is left to read and what the tokens so far have named. -/
structure Reading where
  tokens : List Token
  anchors : List (String × Node)
  /-- What the handles of tags stand for. -/
  handles : List (List Char × List Char)

/-- A reader of part of the tokens. -/
abbrev Reader := StateT Reading Option

/-- The handles that every document knows. -/
def standardHandles : List (List Char × List Char) :=
  [(['!'], ['!']), (['!', '!'], "tag:yaml.org,2002:".toList)]

namespace Reader

/-- The next token. -/
def peek : Reader (Option Token) := do return (← get).tokens.head?

/-- Goes to the token after the next one. -/
def next : Reader Unit := modify fun r => { r with tokens := r.tokens.drop 1 }

/-- The value that an anchor names. -/
def named (name : List Char) : Reader Node := do (← get).anchors.lookup (String.ofList name)

/-- Lets an anchor, if there is one, name a value. -/
def setAnchor (anchor : Option (List Char)) (n : Node) : Reader Unit :=
  modify fun r => { r with anchors := (anchor.map fun a => (String.ofList a, n)).toList ++ r.anchors }

/-- A tag in full. -/
def resolve (t : TagText) : Reader String := do
  if t.handle.isEmpty then return String.ofList t.suffix
  let start ← (← get).handles.lookup t.handle
  return String.ofList (start ++ t.suffix)

/-- The anchor and the tag before a value, in any order. -/
def properties : Reader (Option (List Char) × Option String) := do
  match ← peek with
  | some (.anchor name) =>
    next
    match ← peek with
    | some (.tag t) => next; return (some name, some (← resolve t))
    | _ => return (some name, none)
  | some (.tag t) =>
    next
    let tag ← resolve t
    match ← peek with
    | some (.anchor name) => next; return (some name, some tag)
    | _ => return (none, some tag)
  | _ => return (none, none)

end Reader

/-! ### Where a value may be left out -/

/-- Whether an item of a block sequence is left out before this token. -/
def Token.endsBlockItem : Token → Bool
  | .blockEntry | .blockEnd => true
  | _ => false

/-- Whether an item of a sequence without indentation is left out before this token. -/
def Token.endsLooseItem : Token → Bool
  | .blockEntry | .key | .value | .blockEnd => true
  | _ => false

/-- Whether a key or a value of a block mapping is left out before this token. -/
def Token.endsBlockPart : Token → Bool
  | .key | .value | .blockEnd => true
  | _ => false

/-- Whether a value between square brackets is left out before this token. -/
def Token.endsFlowItem : Token → Bool
  | .flowEntry | .flowSequenceEnd => true
  | _ => false

/-- Whether a value between braces is left out before this token. -/
def Token.endsFlowPart : Token → Bool
  | .flowEntry | .flowMappingEnd => true
  | _ => false

/-- Whether this token stands before a value. -/
def Token.isValue : Token → Bool
  | .value => true
  | _ => false

/-- Whether a document is empty before this token. -/
def Token.endsDocument : Token → Bool
  | .versionDirective | .tagDirective .. | .documentStart | .documentEnd => true
  | _ => false

/-! ### Values -/

open Reader

mutual

/-- Reads a value.  In a block, collections may be written without brackets; `loose` says whether a sequence need not
be indented. -/
def readNode (fuel : Nat) (block loose : Bool) : Reader Node := do
  match fuel with
  | 0 => failure
  | n + 1 =>
    match ← peek with
    | some (.alias name) => next; named name
    | _ =>
      let (anchor, tag) ← properties
      setAnchor anchor .endless
      let node ← match ← peek, block, loose with
        | some .blockEntry, _, true => .sequence tag <$> readLooseItems n
        | some (.scalar style text), _, _ => next; pure (.scalar tag style (String.ofList text))
        | some .flowSequenceStart, _, _ => next; .sequence tag <$> readFlowItems n true
        | some .flowMappingStart, _, _ => next; .mapping tag <$> readFlowEntries n true
        | some .blockSequenceStart, true, _ => next; .sequence tag <$> readBlockItems n
        | some .blockMappingStart, true, _ => next; .mapping tag <$> readBlockEntries n
        | _, _, _ => if anchor.isSome || tag.isSome then pure (.scalar tag .plain "") else failure
      setAnchor anchor node
      return node

/-- Reads a value unless it is left out before the next token. -/
def readPart (fuel : Nat) (block loose : Bool) (leftOut : Token → Bool) : Reader Node := do
  match fuel with
  | 0 => failure
  | n + 1 => if (← peek).any leftOut then return .nothing else readNode n block loose

/-- Reads the items of a block sequence. -/
def readBlockItems (fuel : Nat) : Reader (List Node) := do
  match fuel, ← peek with
  | n + 1, some .blockEntry => next; return (← readPart n true false Token.endsBlockItem) :: (← readBlockItems n)
  | _ + 1, some .blockEnd => next; return []
  | _, _ => failure

/-- Reads the items of a sequence that is not indented. -/
def readLooseItems (fuel : Nat) : Reader (List Node) := do
  match fuel, ← peek with
  | n + 1, some .blockEntry => next; return (← readPart n true false Token.endsLooseItem) :: (← readLooseItems n)
  | _ + 1, _ => return []
  | 0, _ => failure

/-- Reads the entries of a block mapping. -/
def readBlockEntries (fuel : Nat) : Reader (List (Node × Node)) := do
  match fuel, ← peek with
  | n + 1, some .key =>
    next
    let key ← readPart n true true Token.endsBlockPart
    let value ← readValue n true Token.endsBlockPart
    return (key, value) :: (← readBlockEntries n)
  | _ + 1, some .blockEnd => next; return []
  | _, _ => failure

/-- Reads the value after a key, if there is one. -/
def readValue (fuel : Nat) (block : Bool) (leftOut : Token → Bool) : Reader Node := do
  match fuel, ← peek with
  | n + 1, some .value => next; readPart n block block leftOut
  | _ + 1, _ => return .nothing
  | 0, _ => failure

/-- Reads the items between square brackets.  A key there is a mapping with one entry. -/
def readFlowItems (fuel : Nat) (isFirst : Bool) : Reader (List Node) := do
  match fuel, ← peek, isFirst with
  | _ + 1, some .flowSequenceEnd, _ => next; return []
  | n + 1, some .flowEntry, false => next; readFlowItem n
  | n + 1, _, true => readFlowItem n
  | _, _, _ => failure

/-- Reads one of the items between square brackets and those after it. -/
def readFlowItem (fuel : Nat) : Reader (List Node) := do
  match fuel, ← peek with
  | _ + 1, some .flowSequenceEnd => next; return []
  | n + 1, some .key =>
    next
    let leftOut := (← peek).any fun t => t.isValue || t.endsFlowItem
    let key ← if leftOut then (do next; pure .nothing) else readNode n false false
    let value ← readValue n false Token.endsFlowItem
    return .mapping none [(key, value)] :: (← readFlowItems n false)
  | n + 1, _ => return (← readNode n false false) :: (← readFlowItems n false)
  | 0, _ => failure

/-- Reads the entries between braces. -/
def readFlowEntries (fuel : Nat) (isFirst : Bool) : Reader (List (Node × Node)) := do
  match fuel, ← peek, isFirst with
  | _ + 1, some .flowMappingEnd, _ => next; return []
  | n + 1, some .flowEntry, false => next; readFlowEntry n
  | n + 1, _, true => readFlowEntry n
  | _, _, _ => failure

/-- Reads one of the entries between braces and those after it. -/
def readFlowEntry (fuel : Nat) : Reader (List (Node × Node)) := do
  match fuel, ← peek with
  | _ + 1, some .flowMappingEnd => next; return []
  | n + 1, some .key =>
    next
    let key ← readPart n false false fun t => t.isValue || t.endsFlowPart
    let value ← readValue n false Token.endsFlowPart
    return (key, value) :: (← readFlowEntries n false)
  | n + 1, _ => return (← readNode n false false, .nothing) :: (← readFlowEntries n false)
  | 0, _ => failure

end

/-! ### Documents -/

/-- Reads the directives before a document.  There may be one version and one meaning of every handle. -/
def readDirectives (isFirst : Bool) (handles : List (List Char × List Char)) :
    List Token → Option (List (List Char × List Char) × List Token)
  | .versionDirective :: rest => if isFirst then readDirectives false handles rest else none
  | .tagDirective handle start :: rest =>
    if (handles.lookup handle).isSome then none else readDirectives isFirst ((handle, start) :: handles) rest
  | rest => some (handles, rest)

/-- Reads the tokens of a document with what is before it and returns the tokens after it. -/
def readDocument? (tokens : List Token) : Option (Node × List Token) := do
  let fuel := 4 * tokens.length + 4
  match tokens with
  | [] => return (.nothing, [])
  | t :: _ =>
    if t.endsDocument && !(t matches .documentEnd) then
      match ← readDirectives true [] tokens with
      | (handles, .documentStart :: rest) =>
        if rest.head?.all Token.endsDocument then return (.nothing, rest)
        let (node, after) ← (readNode fuel true false).run ⟨rest, [], handles ++ standardHandles⟩
        return (node, after.tokens)
      | _ => none
    else
      let (node, after) ← (readNode fuel true false).run ⟨tokens, [], standardHandles⟩
      return (node, after.tokens)

/-- The value of the document in a text, if there is not more than one. -/
def Node.read? (text : String) : Option Node := do
  let tokens ← Token.read? text.toList
  let (node, rest) ← readDocument? tokens
  if rest.all (· matches .documentEnd) then some node else none

end ChatModeration.Yaml
