import ChatModeration.Yaml.Scalar

/-!
# Tokens of a YAML text

The parts that a YAML text is split into.  Indentation becomes tokens of its own, and a key that is followed by a colon
has a token before it, so that a reader of tokens need not look at columns.
-/

namespace ChatModeration.Yaml

/-- A tag as it is written: a handle that stands for the beginning of the tag, and the rest. -/
structure TagText where
  handle : List Char
  suffix : List Char

/-- A part of a YAML text. -/
inductive Token where
  | versionDirective
  /-- Says what the handle of a tag stands for. -/
  | tagDirective (handle start : List Char)
  | documentStart | documentEnd
  | blockSequenceStart | blockMappingStart | blockEnd
  | flowSequenceStart | flowSequenceEnd | flowMappingStart | flowMappingEnd
  | blockEntry | flowEntry | key | value
  | anchor (name : List Char)
  | alias (name : List Char)
  | tag (text : TagText)
  | scalar (style : Style) (text : List Char)

end ChatModeration.Yaml
