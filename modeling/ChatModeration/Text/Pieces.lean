/-!
# Pieces of a text

The pieces of a text between marks (`pieces`), and the two parts of a text around its first or last mark.
-/

namespace ChatModeration.Text

/-- The pieces of a text between marks. -/
def pieces (mark : Char) : List Char → List (List Char)
  | [] => [[]]
  | c :: cs =>
    if c = mark then [] :: pieces mark cs
    else
      match pieces mark cs with
      | [] => [[c]]
      | piece :: rest => (c :: piece) :: rest

/-- The part of a text before its first mark and the part after it. -/
def splitAtFirst (mark : Char) (cs : List Char) : Option (List Char × List Char) :=
  match cs.dropWhile (· != mark) with
  | [] => none
  | _ :: after => some (cs.takeWhile (· != mark), after)

/-- The part of a text before its last mark and the part after it. -/
def splitAtLast (mark : Char) (cs : List Char) : Option (List Char × List Char) :=
  (splitAtFirst mark cs.reverse).map fun (after, before) => (before.reverse, after.reverse)

/-- A text without all copies of `start` at its beginning. -/
def stripRepeated (start cs : List Char) : List Char :=
  if _h : start.isPrefixOf cs ∧ start ≠ [] then stripRepeated start (cs.drop start.length) else cs
termination_by cs.length
decreasing_by
  obtain ⟨h, hne⟩ := ‹_ ∧ _›
  have hle := (List.isPrefixOf_iff_prefix.1 h).length_le
  have := List.length_pos_iff.2 hne
  simp only [List.length_drop]
  omega

end ChatModeration.Text
