/-!
# Blank characters and words

The characters of the Unicode property `White_Space` (`isBlank`), the removal of blank characters at both ends of a
text (`trim`) and its division into maximal runs of other characters (`words`).  A run is never empty and holds only
characters of its kind (`of_mem_runs`), and a separator divides the runs before it from those after it
(`runs_append_cons`).
-/

namespace ChatModeration.Text

/-- The property `White_Space`. -/
def isBlank (c : Char) : Bool :=
  let n := c.toNat
  (0x9 ≤ n && n ≤ 0xD) || n == 0x20 || n == 0x85 || n == 0xA0 || n == 0x1680 || (0x2000 ≤ n && n ≤ 0x200A) ||
    n == 0x2028 || n == 0x2029 || n == 0x202F || n == 0x205F || n == 0x3000

/-- The runs of a text that continues a run, whose characters are given in reverse order. -/
def runsFrom (p : Char → Bool) (run : List Char) : List Char → List (List Char)
  | [] => if run.isEmpty then [] else [run.reverse]
  | c :: cs =>
    if p c then runsFrom p (c :: run) cs
    else if run.isEmpty then runsFrom p [] cs
    else run.reverse :: runsFrom p [] cs

/-- The maximal runs of characters that satisfy `p`, from left to right. -/
def runs (p : Char → Bool) (cs : List Char) : List (List Char) := runsFrom p [] cs

/-- The words of a text: its maximal runs of characters that are not blank. -/
def words (s : String) : List String := (runs (fun c => !isBlank c) s.toList).map String.ofList

/-- A list without the blank characters at its start. -/
def trimStart (cs : List Char) : List Char := cs.dropWhile isBlank

/-- A text without the blank characters at its start and at its end. -/
def trim (s : String) : String :=
  String.ofList (trimStart (trimStart s.toList).reverse).reverse

private theorem of_mem_runsFrom {p : Char → Bool} {run cs w : List Char} (hr : ∀ c ∈ run, p c = true)
    (h : w ∈ runsFrom p run cs) : w ≠ [] ∧ ∀ c ∈ w, p c = true := by
  induction cs generalizing run with
  | nil =>
    unfold runsFrom at h
    split at h
    · simp at h
    · simp_all
  | cons c cs ih =>
    unfold runsFrom at h
    split at h
    · exact ih (by simp_all) h
    · split at h
      · exact ih (by simp) h
      · rcases List.mem_cons.1 h with rfl | h
        · simp_all
        · exact ih (by simp) h

/-- A run is not empty, and all its characters satisfy the predicate. -/
theorem of_mem_runs {p : Char → Bool} {cs w : List Char} (h : w ∈ runs p cs) : w ≠ [] ∧ ∀ c ∈ w, p c = true :=
  of_mem_runsFrom (by simp) h

private theorem runsFrom_append_cons {p : Char → Bool} {c : Char} (hc : p c = false) (run xs ys : List Char) :
    runsFrom p run (xs ++ c :: ys) = runsFrom p run xs ++ runs p ys := by
  induction xs generalizing run with
  | nil =>
    cases run <;> simp [runsFrom, hc, runs]
  | cons x xs ih =>
    simp only [List.cons_append, runsFrom, ih]
    split
    · rfl
    · split <;> simp

/-- A character outside the predicate divides the runs before it from the runs after it. -/
theorem runs_append_cons {p : Char → Bool} {c : Char} (hc : p c = false) (xs ys : List Char) :
    runs p (xs ++ c :: ys) = runs p xs ++ runs p ys :=
  runsFrom_append_cons hc [] xs ys

end ChatModeration.Text
