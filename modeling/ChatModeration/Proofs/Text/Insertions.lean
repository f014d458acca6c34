import ChatModeration.Fingerprint
import ChatModeration.Proofs.Text.Normalization

/-!
# Dropped characters in a text

Invisible characters and apostrophes are dropped from a text when its characters have been composed already, so one
that is inserted keeps apart what stands on its two sides: the folded form of the text is then that of its pieces, one
after the other (`foldedForm_filled`).  The normalized text is the same if the text has the same words as its pieces,
and so it has where it starts afresh at every place (`normalize_filled`); it is another one where a letter is parted
from a mark that it composes with (`normalize_parted`).
-/

namespace ChatModeration.Text

/-! ### Insertions -/

/-- A place in a text: the dropped characters that are inserted there, and the text up to the next place. -/
structure Insertion where
  inserted : List Char
  rest : List Char
  nonempty : inserted ≠ []
  dropped : inserted ⊆ strippedCharacters

/-- The text of some pieces. -/
def original (first : List Char) (places : List Insertion) : List Char := first ++ places.flatMap Insertion.rest

/-- The text with what is inserted between its pieces. -/
def filled (first : List Char) (places : List Insertion) : List Char :=
  first ++ places.flatMap fun place => place.inserted ++ place.rest

/-- The folded forms of the pieces of a text, one after the other. -/
def foldedPieces (first : List Char) (places : List Insertion) : List Char :=
  foldedForm first ++ places.flatMap fun place => foldedForm place.rest

/-- At every place the rest of the text starts afresh. -/
def AllAfresh (places : List Insertion) : Prop :=
  ∀ later, later <:+ places → BeginsAfresh (later.flatMap Insertion.rest)

/-- A character before the first mark starts afresh. -/
theorem startsAfresh_of_lt {c : Char} (h : c.toNat < 0x300) : StartsAfresh c :=
  ⟨by rw [combiningClass, if_pos h], fun d => by rw [composePair]; exact if_pos h⟩

/-- Plain text starts afresh at every place. -/
theorem allAfresh_of_plain {places : List Insertion}
    (h : ((places.flatMap Insertion.rest).flatMap decompose).all (·.toNat < 0x300) = true) : AllAfresh places := by
  rintro later ⟨before, rfl⟩ c hc
  have hmem : c ∈ ((before ++ later).flatMap Insertion.rest).flatMap decompose := by
    rw [List.flatMap_append, List.flatMap_append]
    exact List.mem_append_right _ (List.mem_of_mem_head? hc)
  exact startsAfresh_of_lt (of_decide_eq_true (List.all_eq_true.1 h c hmem))

/-! ### Folded forms -/

/-- A dropped character is folded to itself. -/
theorem lowerChar_of_mem_strippedCharacters {c : Char} (h : c ∈ strippedCharacters) : lowerChar c = [c] := by
  have hall : strippedCharacters.all (fun c => lowerChar c = [c]) = true := by decide +kernel
  exact of_decide_eq_true (List.all_eq_true.1 hall c h)

/-- A dropped character vanishes and keeps apart what stands on its two sides. -/
theorem foldedForm_dropped {c : Char} (h : c ∈ strippedCharacters) (xs ys : List Char) :
    foldedForm (xs ++ c :: ys) = foldedForm xs ++ foldedForm ys := by
  have hform : compatibilityForm (xs ++ c :: ys) = compatibilityForm xs ++ c :: compatibilityForm ys :=
    compatibilityForm_barrier (decompose_of_mem_strippedCharacters h) (isBarrier_of_mem_strippedCharacters h) xs ys
  have hgone : ∀ cs, (c :: cs).filter (fun d => !strippedCharacters.contains d) =
      cs.filter fun d => !strippedCharacters.contains d := fun _ => List.filter_cons_of_neg (by simpa using h)
  rw [foldedForm, hform, List.flatMap_append, List.flatMap_cons, lowerChar_of_mem_strippedCharacters h,
    List.filter_append, List.singleton_append, hgone]
  rfl

theorem foldedForm_all_dropped {gap : List Char} (h : gap ⊆ strippedCharacters) (ys : List Char) :
    foldedForm (gap ++ ys) = foldedForm ys := by
  induction gap with
  | nil => rfl
  | cons c gap ih =>
    obtain ⟨hc, hgap⟩ := List.cons_subset.1 h
    have hsplit : foldedForm ([] ++ c :: (gap ++ ys)) = foldedForm [] ++ foldedForm (gap ++ ys) :=
      foldedForm_dropped hc [] _
    rw [List.cons_append]
    exact hsplit.trans (ih hgap)

/-- Dropped characters, of which there is at least one, keep apart what stands on their two sides. -/
theorem foldedForm_inserted {gap : List Char} (hne : gap ≠ []) (h : gap ⊆ strippedCharacters)
    (xs ys : List Char) : foldedForm (xs ++ (gap ++ ys)) = foldedForm xs ++ foldedForm ys := by
  cases gap with
  | nil => contradiction
  | cons c gap =>
    obtain ⟨hc, hgap⟩ := List.cons_subset.1 h
    rw [List.cons_append, foldedForm_dropped hc, foldedForm_all_dropped hgap]

/-- The folded form of a text with inserted characters is that of its pieces, one after the other. -/
theorem foldedForm_filled (first : List Char) (places : List Insertion) :
    foldedForm (filled first places) = foldedPieces first places := by
  induction places generalizing first with
  | nil => rw [filled, foldedPieces, List.flatMap_nil, List.flatMap_nil, List.append_nil, List.append_nil]
  | cons place places ih =>
    have hfilled : filled first (place :: places) = first ++ (place.inserted ++ filled place.rest places) := by
      rw [filled, filled, List.flatMap_cons, List.append_assoc]
    rw [hfilled, foldedForm_inserted place.nonempty place.dropped, ih, foldedPieces, foldedPieces, List.flatMap_cons]

/-- Where the rest of a text starts afresh its folded form falls into two. -/
theorem foldedForm_append {ys : List Char} (h : BeginsAfresh ys) (xs : List Char) :
    foldedForm (xs ++ ys) = foldedForm xs ++ foldedForm ys := by
  rw [foldedForm, compatibilityForm_append h, List.flatMap_append, List.filter_append]
  rfl

/-- The folded form of a text that starts afresh at every place is that of its pieces. -/
theorem foldedForm_original (first : List Char) {places : List Insertion} (h : AllAfresh places) :
    foldedForm (original first places) = foldedPieces first places := by
  induction places generalizing first with
  | nil => rw [original, foldedPieces, List.flatMap_nil, List.flatMap_nil, List.append_nil, List.append_nil]
  | cons place places ih =>
    have hrest : AllAfresh places := fun later hlater => h later (hlater.trans (List.suffix_cons place places))
    have hafresh : BeginsAfresh (original place.rest places) := h (place :: places) List.suffix_rfl
    have horiginal : original first (place :: places) = first ++ original place.rest places := by
      rw [original, original, List.flatMap_cons]
    rw [horiginal, foldedForm_append hafresh, ih place.rest hrest, foldedPieces, foldedPieces, List.flatMap_cons]

/-! ### Normalized texts -/

/-- Words with a separator between them determine the words. -/
theorem joined_injective {ws vs : List (List Char)} {p : Char → Bool} {c : Char} (hc : p c = false)
    (hws : ∀ w ∈ ws, w ≠ [] ∧ ∀ d ∈ w, p d = true) (hvs : ∀ w ∈ vs, w ≠ [] ∧ ∀ d ∈ w, p d = true)
    (h : [c].intercalate ws = [c].intercalate vs) : ws = vs := by
  rw [← runs_intercalate hc hws, h, runs_intercalate hc hvs]

/-- Normalized texts are the same if their words are the same. -/
theorem normalize_ofList_inj {cs ds : List Char} :
    normalize (String.ofList cs) = normalize (String.ofList ds) ↔ normalizedWords cs = normalizedWords ds := by
  rw [← String.toList_inj, toList_normalize, toList_normalize, String.toList_ofList, String.toList_ofList]
  constructor
  · exact joined_injective (p := isAlphanumeric) (by decide) (fun _ => of_mem_runs) fun _ => of_mem_runs
  · exact congrArg _

/--
Inserted characters that are dropped leave a normalized text what it is exactly if the pieces have the words of the
text.  They have if the text starts afresh at every place; the tokens and the fingerprint are the same then, too.
-/
theorem normalize_filled (first : List Char) (places : List Insertion) :
    (normalize (.ofList (filled first places)) = normalize (.ofList (original first places)) ↔
      runs isAlphanumeric (foldedPieces first places) = runs isAlphanumeric (foldedForm (original first places))) ∧
    (AllAfresh places →
      normalize (.ofList (filled first places)) = normalize (.ofList (original first places)) ∧
      words (normalize (.ofList (filled first places))) = words (normalize (.ofList (original first places))) ∧
      Fingerprint.ofTokens (words (normalize (.ofList (filled first places)))) =
        Fingerprint.ofTokens (words (normalize (.ofList (original first places))))) := by
  have hwords : normalizedWords (filled first places) = runs isAlphanumeric (foldedPieces first places) := by
    rw [normalizedWords, foldedForm_filled]
  constructor
  · rw [normalize_ofList_inj, hwords]
    rfl
  · intro hafresh
    have hsame : normalize (.ofList (filled first places)) = normalize (.ofList (original first places)) := by
      rw [normalize_ofList_inj, hwords, normalizedWords, foldedForm_original first hafresh]
    rw [hsame]
    exact ⟨rfl, rfl, rfl⟩

theorem normalize_filled_invisible :
    normalize "sp\u200Bam" = normalize "spam" ∧ words (normalize "sp\u200Bam") = words (normalize "spam") ∧
      Fingerprint.ofTokens (words (normalize "sp\u200Bam")) = Fingerprint.ofTokens (words (normalize "spam")) :=
  (normalize_filled ['s', 'p'] [⟨['\u200B'], ['a', 'm'], by decide, by decide⟩]).2
    (allAfresh_of_plain (by decide +kernel))

/-- An inserted character parts a letter from its mark: they are another word. -/
theorem normalize_parted :
    ¬ ∀ first places, normalize (.ofList (filled first places)) = normalize (.ofList (original first places)) := by
  intro h
  have hsame := h "cafe".toList [⟨['\u200B'], ['\u0301', 'x'], by decide, by decide⟩]
  have hfilled : normalize (.ofList (filled "cafe".toList
      [⟨['\u200B'], ['\u0301', 'x'], by decide, by decide⟩])) = "cafe x" := by decide +kernel
  have horiginal : normalize (.ofList (original "cafe".toList
      [⟨['\u200B'], ['\u0301', 'x'], by decide, by decide⟩])) = "caf\u00E9x" := by decide +kernel
  rw [hfilled, horiginal] at hsame
  contradiction

end ChatModeration.Text
