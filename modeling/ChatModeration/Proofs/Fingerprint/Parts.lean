import ChatModeration.Proofs.Fingerprint.Sets
import ChatModeration.Proofs.Text.Normalization
import ChatModeration.Proofs.Text.Pieces
import Mathlib.Data.Finset.Union

/-!
# Fingerprints of the parts of a text

A text consists of the parts between its spaces (`intercalate_spacedParts`).  Nothing is composed across a space, so the
words of the normalized text are those of its parts, one after the other (`words_normalize_intercalate`), and its
fingerprint is the union of theirs.  Hence it does not depend on the order of the parts or on how often one of them is
there (`ofText_spaced`).
-/

namespace ChatModeration

namespace Text

/-! ### Parts of a text -/

/-- The parts of a text between its spaces. -/
def spacedParts (text : String) : List String := (pieces ' ' text.toList).map String.ofList

theorem intercalate_spacedParts (text : String) : " ".intercalate (spacedParts text) = text := by
  rw [← String.toList_inj, String.toList_intercalate, spacedParts, map_toList_ofList]
  exact intercalate_pieces ' ' text.toList

/-! ### Words of the parts -/

/-- The normalized words of texts with spaces between them are those of the texts, one after the other. -/
theorem normalizedWords_intercalate (parts : List (List Char)) :
    normalizedWords ([' '].intercalate parts) = parts.flatMap normalizedWords := by
  induction parts with
  | nil => rfl
  | cons part parts ih =>
    cases parts with
    | nil => simp
    | cons next parts =>
      rw [List.intercalate_cons_cons, List.append_assoc, List.singleton_append, normalizedWords_blank rfl, ih,
        List.flatMap_cons (x := part)]

theorem words_normalize_intercalate (parts : List String) :
    words (normalize (" ".intercalate parts)) = parts.flatMap fun part => words (normalize part) := by
  rw [words_normalize, String.toList_intercalate, show " ".toList = [' '] from rfl, normalizedWords_intercalate,
    List.map_flatMap, List.flatMap_map]
  exact List.flatMap_congr fun part _ => (words_normalize part).symm

theorem words_normalize_append (a b : String) :
    words (normalize (a ++ " " ++ b)) = words (normalize a) ++ words (normalize b) := by
  have hjoined := words_normalize_intercalate [a, b]
  simpa using hjoined

end Text

/-! ### Fingerprints of the parts -/

namespace Fingerprint

open Text (spacedParts words normalize)

variable {κ : Type} [DecidableEq κ] (hash : String → κ)

/-- The fingerprint of a text, with its normalized words replaced by their hashes. -/
def ofText (text : String) : Fingerprint κ := ofTokens ((words (normalize text)).map hash)

theorem nodup_ofText (text : String) : (ofText hash text).tokens.Nodup := nodup_ofTokens _

theorem toFinset_ofText (text : String) : (ofText hash text).toFinset = ((words (normalize text)).map hash).toFinset :=
  toFinset_ofTokens _

/-- The fingerprint of texts with spaces between them is the union of theirs. -/
theorem toFinset_ofText_intercalate (parts : List String) :
    (ofText hash (" ".intercalate parts)).toFinset =
      parts.toFinset.biUnion fun part => (ofText hash part).toFinset := by
  ext k
  rw [toFinset_ofText, Text.words_normalize_intercalate, List.map_flatMap, List.mem_toFinset, List.mem_flatMap,
    Finset.mem_biUnion]
  refine exists_congr fun part => and_congr List.mem_toFinset.symm ?_
  rw [toFinset_ofText, List.mem_toFinset]

/--
The words of two normalized texts with a space between them are those of the first and then those of the second one.
The fingerprint of a message is the union of those of the parts of its text between spaces, so it is the same for two
messages that have the same parts, in whatever order and however often.
-/
theorem ofText_spaced :
    (∀ a b, words (normalize (a ++ " " ++ b)) = words (normalize a) ++ words (normalize b)) ∧
    (∀ id userId userLogin text,
      ofTokens ((ChatMessage.ofText id userId userLogin text).tokens.map hash) = ofText hash text ∧
        (ofText hash text).toFinset = (spacedParts text).toFinset.biUnion fun part => (ofText hash part).toFinset) ∧
    ∀ text text', (∀ part, part ∈ spacedParts text ↔ part ∈ spacedParts text') →
      (ofText hash text).same (ofText hash text') = true := by
  have hunion : ∀ text, (ofText hash text).toFinset =
      (spacedParts text).toFinset.biUnion fun part => (ofText hash part).toFinset := by
    intro text
    rw [← toFinset_ofText_intercalate, Text.intercalate_spacedParts]
  refine ⟨Text.words_normalize_append, fun id userId userLogin text => ⟨?_, hunion text⟩, ?_⟩
  · rw [ChatMessage.tokens_ofText, ofText]
  · intro text text' hparts
    have hset : (spacedParts text).toFinset = (spacedParts text').toFinset := by
      ext part
      rw [List.mem_toFinset, List.mem_toFinset, hparts]
    rw [same_iff (nodup_ofText hash text) (nodup_ofText hash text'), hunion, hunion, hset]

theorem ofText_spaced_repeated :
    (∀ part, part ∈ spacedParts "e\u0301t\u00E9 now e\u0301t\u00E9" ↔ part ∈ spacedParts "now e\u0301t\u00E9") ∧
      (ofText id "e\u0301t\u00E9 now e\u0301t\u00E9").same (ofText id "now e\u0301t\u00E9") = true := by
  have hparts : spacedParts "e\u0301t\u00E9 now e\u0301t\u00E9" = ["e\u0301t\u00E9", "now", "e\u0301t\u00E9"] := by
    decide
  have hparts' : spacedParts "now e\u0301t\u00E9" = ["now", "e\u0301t\u00E9"] := by decide
  have hsame : ∀ part, part ∈ spacedParts "e\u0301t\u00E9 now e\u0301t\u00E9" ↔
      part ∈ spacedParts "now e\u0301t\u00E9" := by
    intro part
    rw [hparts, hparts']
    simp
    tauto
  exact ⟨hsame, (ofText_spaced id).2.2 _ _ hsame⟩

end Fingerprint

end ChatModeration
