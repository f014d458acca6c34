import ChatModeration.Proofs.Pattern.Search

/-!
# What the last part of a sequence captures

A sequence of expressions ends with one that captures what it matches.  In a text, the preferred match at the first
position where one begins decides; the search goes on where that match ends (`Captures`).  The captured spans of a text
are determined (`Captures.unique`).  A bounded repetition of a set of characters prefers to take as many of them as it
may (`head?_ends_repeat`).
-/

namespace ChatModeration.Pattern

variable {t : List Char} {e group : Expr} {parts : List Expr} {i k : Nat}

/-! ### Sequences -/

/-- Expressions one after another, the last one apart. -/
def sequence (parts : List Expr) (last : Expr) : Expr := parts.foldr .cat last

theorem ends_sequence (parts : List Expr) (group : Expr) (i : Nat) :
    (sequence parts group).ends t i = ((sequence parts .empty).ends t i).flatMap (group.ends t) := by
  induction parts generalizing i with
  | nil => exact (List.flatMap_singleton (group.ends t) i).symm
  | cons a parts ih =>
    have hgroup : (sequence (a :: parts) group).ends t i = (a.ends t i).flatMap ((sequence parts group).ends t) := rfl
    have hempty : (sequence (a :: parts) .empty).ends t i = (a.ends t i).flatMap ((sequence parts .empty).ends t) := rfl
    rw [hgroup, hempty, List.flatMap_assoc]
    exact List.flatMap_congr fun j _ => ih j

/-- What the last part of a sequence matches in the preferred match that begins at a position. -/
def captured? (t : List Char) (parts : List Expr) (group : Expr) (i : Nat) : Option Span :=
  ((sequence parts .empty).ends t i).findSome? fun j => (group.ends t j).head?.map (Span.mk j)

/-- The preferred match of a sequence ends where its last part ends. -/
theorem head?_ends_sequence (t : List Char) (parts : List Expr) (group : Expr) (i : Nat) :
    ((sequence parts group).ends t i).head? = (captured? t parts group i).map Span.stop := by
  rw [ends_sequence, List.head?_flatMap, captured?, List.map_findSome?]
  refine congrArg (List.findSome? · _) (funext fun j => ?_)
  rw [Function.comp_apply, Option.map_map]
  exact Option.map_id'.symm

/-! ### Leftmost matches -/

theorem match?_eq_head? (e : Expr) (i : Nat) :
    Thread.match? t i ⟨i, e⟩ = ((e.ends t i).head?).map (Span.mk i) := by
  rw [Thread.match?]
  cases e.ends t i <;> rfl

/-- Where no match begins, none is found. -/
theorem leftmost_eq_none (h : ∀ start, i ≤ start → e.ends t start = []) : leftmost t e i = none := by
  refine List.findSome?_eq_none_iff.2 fun start hstart => ?_
  rw [match?_eq_head?, h start (List.mem_range'_1.1 hstart).1]
  rfl

/-- The first position at which a match begins decides. -/
theorem leftmost_eq_some {start : Nat} (hi : i ≤ start) (hstart : start ≤ t.length)
    (hfirst : ∀ p, i ≤ p → p < start → e.ends t p = []) (hstop : (e.ends t start).head? = some k) :
    leftmost t e i = some ⟨start, k⟩ := by
  induction hn : start - i generalizing i with
  | zero =>
    obtain rfl : i = start := by omega
    rw [leftmost_eq e hstart, match?_eq_head?, hstop]
    rfl
  | succ n ih =>
    have hnone : Thread.match? t i ⟨i, e⟩ = none := by
      rw [match?_eq_head?, hfirst i (Nat.le_refl i) (by omega)]
      rfl
    rw [leftmost_eq e (by omega), hnone, Option.none_or]
    exact ih (by omega) (fun p hp => hfirst p (by omega)) (by omega)

/-! ### Successive matches -/

/-- The part of a text that a span covers. -/
def Span.part (t : List Char) (span : Span) : List Char := (t.drop span.start).take (span.stop - span.start)

/--
The spans that the last part of a sequence captures in the successive matches from a position on: each match is the
leftmost one that begins where the one before it ends, or later.  The sequence is meant to have no empty match.
-/
inductive Captures (t : List Char) (parts : List Expr) (group : Expr) : Nat → List Span → Prop where
  | finished {i : Nat} (h : leftmost t (sequence parts group) i = none) : Captures t parts group i []
  | found {i : Nat} {whole span : Span} {spans : List Span} (h : leftmost t (sequence parts group) i = some whole)
      (hspan : captured? t parts group whole.start = some span) (hrest : Captures t parts group whole.stop spans) :
      Captures t parts group i (span :: spans)

/-- The captured spans are determined. -/
theorem Captures.unique {spans others : List Span} (h : Captures t parts group i spans)
    (h' : Captures t parts group i others) : others = spans := by
  induction h generalizing others with
  | finished hnone =>
    cases h' with
    | finished => rfl
    | found hsome => rw [hnone] at hsome; cases hsome
  | found hsome hspan _ ih =>
    cases h' with
    | finished hnone => rw [hnone] at hsome; cases hsome
    | found hsome' hspan' hrest' =>
      rw [hsome] at hsome'
      cases hsome'
      rw [hspan] at hspan'
      cases hspan'
      rw [ih hrest']

theorem ends_sequence_eq_nil (h : captured? t parts group i = none) : (sequence parts group).ends t i = [] := by
  rw [← List.head?_eq_none_iff, head?_ends_sequence, h]
  rfl

/-- Nothing is captured if no match begins. -/
theorem Captures.nil (h : ∀ start, i ≤ start → captured? t parts group start = none) : Captures t parts group i [] :=
  .finished (leftmost_eq_none fun start hstart => ends_sequence_eq_nil (h start hstart))

/-- The first match that begins captures, and the search goes on behind it. -/
theorem Captures.cons {start : Nat} {span : Span} {spans : List Span} (hi : i ≤ start) (hstart : start ≤ t.length)
    (hfirst : ∀ p, i ≤ p → p < start → captured? t parts group p = none)
    (hspan : captured? t parts group start = some span) (hrest : Captures t parts group span.stop spans) :
    Captures t parts group i (span :: spans) := by
  have hmatch : ((sequence parts group).ends t start).head? = some span.stop := by
    rw [head?_ends_sequence, hspan]
    rfl
  have hwhole : leftmost t (sequence parts group) i = some ⟨start, span.stop⟩ :=
    leftmost_eq_some hi hstart (fun p hp hlt => ends_sequence_eq_nil (hfirst p hp hlt)) hmatch
  exact .found hwhole hspan hrest

/-! ### Repetitions of a set -/

section Repeat

variable {set : CharSet}

/-- The number of characters of a set that follow a position, at most `n`. -/
def runLength (t : List Char) (set : CharSet) (n i : Nat) : Nat := (((t.drop i).take n).takeWhile set.mem).length

theorem ends_char (t : List Char) (set : CharSet) (i : Nat) :
    (Expr.char set).ends t i = if (t[i]?).any set.mem = true then [i + 1] else [] := by
  rw [Expr.ends]
  cases t[i]? <;> rfl

theorem drop_eq_cons {c : Char} (h : t[i]? = some c) : t.drop i = c :: t.drop (i + 1) := by
  obtain ⟨hi, rfl⟩ := List.getElem?_eq_some_iff.1 h
  exact List.drop_eq_getElem_cons hi

theorem runLength_succ (t : List Char) (set : CharSet) (n i : Nat) :
    runLength t set (n + 1) i = if (t[i]?).any set.mem = true then runLength t set n (i + 1) + 1 else 0 := by
  unfold runLength
  cases hc : t[i]? with
  | none =>
    rw [List.drop_eq_nil_iff.2 (List.getElem?_eq_none_iff.1 hc)]
    rfl
  | some c =>
    rw [drop_eq_cons hc, List.take_succ_cons, List.takeWhile_cons, Option.any_some]
    split <;> rfl

/-- A greedy repetition of at most `n` characters takes as many as there are. -/
theorem head?_upToEnds (n i : Nat) :
    (upToEnds true ((Expr.char set).ends t) n i).head? = some (i + runLength t set n i) := by
  induction n generalizing i with
  | zero => rfl
  | succ n ih =>
    rw [upToEnds, orStop, if_pos rfl, ends_char, runLength_succ]
    split
    · rw [List.flatMap_singleton, List.head?_append, ih, Option.some_or, Nat.add_right_comm, Nat.add_assoc]
    · rfl

/-- A repetition that is to go on takes a character of the set first. -/
theorem head?_flatMap_char {f : Nat → List Nat} {min n : Nat}
    (h : (f (i + 1)).head? =
      if min ≤ runLength t set n (i + 1) then some (i + 1 + runLength t set n (i + 1)) else none) :
    (((Expr.char set).ends t i).flatMap f).head? =
      if min + 1 ≤ runLength t set (n + 1) i then some (i + runLength t set (n + 1) i) else none := by
  rw [ends_char, runLength_succ]
  split
  · rw [List.flatMap_singleton, h, Nat.add_right_comm, Nat.add_assoc]
    exact if_congr Nat.add_le_add_iff_right.symm rfl rfl
  · exact (if_neg (Nat.not_succ_le_zero min)).symm

theorem head?_repEnds : ∀ {min max : Nat} (_ : min ≤ max) (i : Nat),
    (repEnds t.length true ((Expr.char set).ends t) (some max) min i).head? =
      if min ≤ runLength t set max i then some (i + runLength t set max i) else none
  | 0, max, _, i => by
    rw [if_pos (Nat.zero_le _)]
    exact head?_upToEnds max i
  | 1, max + 1, _, i => by
    refine head?_flatMap_char ?_
    rw [if_pos (Nat.zero_le _)]
    exact head?_upToEnds max (i + 1)
  | min + 2, max + 1, h, i => head?_flatMap_char (head?_repEnds (Nat.le_of_succ_le_succ h) (i + 1))

/-- A greedy repetition of a set takes all of its characters that follow, if there are not too few of them. -/
theorem head?_ends_repeat {min max : Nat} (h : min ≤ max) (i : Nat) :
    ((Expr.rep min (some max) true (.char set)).ends t i).head? =
      if min ≤ runLength t set max i then some (i + runLength t set max i) else none :=
  head?_repEnds h i

end Repeat

end ChatModeration.Pattern
