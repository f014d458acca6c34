import ChatModeration.Text.Pieces
import Mathlib.Data.List.Basic
import Mathlib.Data.List.TakeWhile

/-!
# Pieces and their text

The pieces of a text with the marks between them are the text (`intercalate_pieces`), and a text falls into pieces on
both sides of each of its marks (`pieces_append_cons`).  A text is split around its last mark where no mark follows
(`splitAtLast_append`).
-/

namespace ChatModeration.Text

theorem pieces_ne_nil (mark : Char) (cs : List Char) : pieces mark cs ≠ [] := by
  cases cs with
  | nil => exact List.cons_ne_nil _ _
  | cons c cs =>
    rw [pieces]
    split
    · exact List.cons_ne_nil _ _
    · split <;> exact List.cons_ne_nil _ _

/-- The pieces of a text with the marks between them are the text. -/
theorem intercalate_pieces (mark : Char) (cs : List Char) : [mark].intercalate (pieces mark cs) = cs := by
  induction cs with
  | nil => rfl
  | cons c cs ih =>
    cases hpieces : pieces mark cs with
    | nil => exact absurd hpieces (pieces_ne_nil mark cs)
    | cons piece rest =>
      rw [hpieces] at ih
      rw [pieces, hpieces]
      by_cases hc : c = mark
      · rw [if_pos hc, List.intercalate_cons_cons, ih, hc]
        rfl
      · rw [if_neg hc]
        -- the character belongs to the first piece, whether or not there is another one
        cases rest with
        | nil =>
          rw [List.intercalate_singleton] at ih
          simp [ih]
        | cons next rest =>
          rw [List.intercalate_cons_cons] at ih
          simp only [List.intercalate_cons_cons, List.cons_append, ih]

/-- The pieces before and after one of the marks. -/
theorem pieces_append_cons (mark : Char) (cs ds : List Char) :
    pieces mark (cs ++ mark :: ds) = pieces mark cs ++ pieces mark ds := by
  induction cs with
  | nil => simp [pieces]
  | cons c cs ih =>
    rw [List.cons_append, pieces, ih, pieces]
    by_cases hc : c = mark
    · rw [if_pos hc, if_pos hc, List.cons_append]
    · rw [if_neg hc, if_neg hc]
      -- the character belongs to the first piece, which stands before the mark
      cases hpieces : pieces mark cs with
      | nil => exact absurd hpieces (pieces_ne_nil mark cs)
      | cons piece rest => rfl

/-! ### Around the first and the last mark -/

variable {mark : Char} {before after : List Char}

private theorem bne_of_not_mem (h : mark ∉ before) : ∀ c ∈ before, (c != mark) = true := fun _ hc =>
  bne_iff_ne.2 fun hcm => h (hcm ▸ hc)

theorem splitAtFirst_append (h : mark ∉ before) :
    splitAtFirst mark (before ++ mark :: after) = some (before, after) := by
  rw [splitAtFirst, List.dropWhile_append_of_pos (bne_of_not_mem h), List.takeWhile_append_of_pos (bne_of_not_mem h)]
  simp

theorem splitAtFirst_eq_none (h : mark ∉ before) : splitAtFirst mark before = none := by
  rw [splitAtFirst, List.dropWhile_eq_nil_iff.2 (bne_of_not_mem h)]

theorem splitAtLast_append (h : mark ∉ after) : splitAtLast mark (before ++ mark :: after) = some (before, after) := by
  have hreverse : (before ++ mark :: after).reverse = after.reverse ++ mark :: before.reverse := by simp
  rw [splitAtLast, hreverse, splitAtFirst_append (by simpa using h)]
  simp

theorem splitAtLast_eq_none (h : mark ∉ before) : splitAtLast mark before = none := by
  rw [splitAtLast, splitAtFirst_eq_none (by simpa using h)]
  rfl

end ChatModeration.Text
