/-!
# Tables of code points

A property of characters is kept as a list of ranges of code points in ascending order.  The rows of a table are
written as single numerals, in hexadecimal groups of fixed width, and taken apart by `CodeRange.ofValueRow` and its
companions.  `CodeTable.find?` looks a code point up by halving; whatever it finds is a range of the table that
holds the code point (`mem_of_find?_eq_some`).
-/

namespace ChatModeration.Text

/-- The code points from `first` to `last`, both included, and the value that belongs to them. -/
structure CodeRange (α : Type) where
  first : Nat
  last : Nat
  value : α
deriving Repr

namespace CodeRange

/-- Whether the range holds the code point `c`. -/
def Holds {α : Type} (r : CodeRange α) (c : Nat) : Prop := r.first ≤ c ∧ c ≤ r.last

instance {α : Type} (r : CodeRange α) (c : Nat) : Decidable (r.Holds c) :=
  inferInstanceAs (Decidable (_ ∧ _))

/-- A row of two groups of six digits: the first code point and the last. -/
def ofRow (row : Nat) : CodeRange Unit := ⟨row / 0x1000000, row % 0x1000000, ()⟩

/-- A row with a third group, of two digits, for the value. -/
def ofValueRow (row : Nat) : CodeRange Nat :=
  ⟨row / 0x100000000, row / 0x100 % 0x1000000, row % 0x100⟩

/-- A row with a third group, of six digits, for the image of the first code point. -/
def ofShiftRow (row : Nat) : CodeRange Nat :=
  ⟨row / 0x1000000000000, row / 0x1000000 % 0x1000000, row % 0x1000000⟩

end CodeRange

/-- Ranges in ascending order. -/
abbrev CodeTable (α : Type) := Array (CodeRange α)

namespace CodeTable

variable {α : Type}

/-- Looks `c` up among the ranges at the positions from `lo` up to `hi`, which is excluded. -/
def search (t : CodeTable α) (c lo hi : Nat) : Option (CodeRange α) :=
  if lo < hi then
    match t[(lo + hi) / 2]? with
    | none => none
    | some r =>
      if c < r.first then search t c lo ((lo + hi) / 2)
      else if r.last < c then search t c ((lo + hi) / 2 + 1) hi
      else some r
  else none
termination_by hi - lo

/-- The range of the table that holds `c`. -/
def find? (t : CodeTable α) (c : Nat) : Option (CodeRange α) := t.search c 0 t.size

/-- Whether some range of the table holds `c`. -/
def covers (t : CodeTable α) (c : Nat) : Bool := (t.find? c).isSome

private theorem mem_of_search_eq_some {t : CodeTable α} {c lo hi : Nat} {r : CodeRange α}
    (h : t.search c lo hi = some r) : r ∈ t ∧ r.Holds c := by
  fun_induction search t c lo hi with
  | case1 => simp at h
  | case2 _ _ _ _ _ _ ih => exact ih h
  | case3 _ _ _ _ _ _ _ ih => exact ih h
  | case4 lo hi _ s hs h₁ h₂ =>
    obtain rfl := Option.some.inj h
    exact ⟨Array.mem_of_getElem? hs, by unfold CodeRange.Holds; omega⟩
  | case5 => simp at h

/-- What a look-up finds is a range of the table that holds the code point. -/
theorem mem_of_find?_eq_some {t : CodeTable α} {c : Nat} {r : CodeRange α} (h : t.find? c = some r) :
    r ∈ t ∧ r.Holds c :=
  mem_of_search_eq_some h

end CodeTable

/-- The base-`2 ^ 24` digits of a numeral, that is, its groups of six hexadecimal digits from left to right. -/
def groups (row : Nat) : List Nat :=
  if row = 0 then [] else groups (row / 0x1000000) ++ [row % 0x1000000]
termination_by row
decreasing_by omega

end ChatModeration.Text
