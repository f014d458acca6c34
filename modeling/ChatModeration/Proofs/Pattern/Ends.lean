import ChatModeration.Pattern.Search
import Mathlib.Data.List.Basic

/-!
# Matches in order of preference

`Expr.ends` lists the ends of all matches of an expression that begin at a position, the preferred ones first: those of
the first alternative before those of the second one, and those of a further turn of a greedy repetition before the end
without it.  A repetition without an upper bound stops after an empty turn.  If the bounds of all repetitions are in
order, the list has just the ends of the matches (`mem_ends_iff`).
-/

namespace ChatModeration.Pattern

/-! ### Ends -/

/-- The character before a position. -/
def charBefore (t : List Char) (i : Nat) : Option Char := if i = 0 then none else t[i - 1]?

/-- The ends of a repetition that can stop at `i` or go on. -/
def orStop (greedy : Bool) (i : Nat) (more : List Nat) : List Nat := if greedy then more ++ [i] else i :: more

/-- The ends of further turns, of which none is empty and which are at most `n`. -/
def furtherEnds (greedy : Bool) (turn : Nat → List Nat) : Nat → Nat → List Nat
  | 0, i => [i]
  | n + 1, i => orStop greedy i (((turn i).filter (i < ·)).flatMap (furtherEnds greedy turn n))

/-- The ends of one turn and any number of further ones; an empty turn is the last one. -/
def unboundedEnds (length : Nat) (greedy : Bool) (turn : Nat → List Nat) (i : Nat) : List Nat :=
  (turn i).flatMap fun j => if j = i then [i] else furtherEnds greedy turn (length - j) j

/-- The ends of at most `n` turns. -/
def upToEnds (greedy : Bool) (turn : Nat → List Nat) : Nat → Nat → List Nat
  | 0, i => [i]
  | n + 1, i => orStop greedy i ((turn i).flatMap (upToEnds greedy turn n))

/-- The ends of at least `min` turns and at most `max` turns in a text of the given length. -/
def repEnds (length : Nat) (greedy : Bool) (turn : Nat → List Nat) (max : Option Nat) : Nat → Nat → List Nat
  | 0, i =>
    match max with
    | none => orStop greedy i (unboundedEnds length greedy turn i)
    | some n => upToEnds greedy turn n i
  | 1, i =>
    match max with
    | none => unboundedEnds length greedy turn i
    | some n => (turn i).flatMap (upToEnds greedy turn (n - 1))
  | min + 2, i => (turn i).flatMap (repEnds length greedy turn (max.map (· - 1)) (min + 1))

/-- The ends of the matches that begin at a position of a text, the preferred ones first. -/
def Expr.ends (t : List Char) : Expr → Nat → List Nat
  | .empty, i => [i]
  | .char set, i =>
    match t[i]? with
    | some c => if set.mem c then [i + 1] else []
    | none => []
  | .anchor a, i => if a.holds (charBefore t i) t[i]? then [i] else []
  | .cat a b, i => (a.ends t i).flatMap (b.ends t)
  | .alt a b, i => a.ends t i ++ b.ends t i
  | .rep min max greedy a, i => repEnds t.length greedy (a.ends t) max min i
  | .again greedy a, i => furtherEnds greedy (a.ends t) (t.length - i) i

variable {t : List Char} {turn : Nat → List Nat} {greedy : Bool} {i j k : Nat}

theorem mem_orStop {more : List Nat} : j ∈ orStop greedy i more ↔ j = i ∨ j ∈ more := by
  cases greedy
  · exact List.mem_cons
  · rw [orStop, if_pos rfl, List.mem_append, List.mem_singleton, or_comm]

/-! ### Bounds -/

/-- Every turn ends at its beginning, or after it and within a text of the given length. -/
def Within (length : Nat) (turn : Nat → List Nat) : Prop := ∀ i, ∀ j ∈ turn i, i ≤ j ∧ (j = i ∨ j ≤ length)

namespace Within

variable {length : Nat}

theorem flatMap {f : Nat → List Nat} (h : Within length turn) (hf : Within length f) :
    Within length fun i => (turn i).flatMap f := by
  intro i k hk
  obtain ⟨j, hj, hk⟩ := List.mem_flatMap.1 hk
  have hij := h i j hj
  have hjk := hf j k hk
  omega

theorem orStop {more : Nat → List Nat} (h : Within length more) :
    Within length fun i => Pattern.orStop greedy i (more i) := by
  intro i j hj
  rcases mem_orStop.1 hj with rfl | hj
  · exact ⟨Nat.le_refl _, .inl rfl⟩
  · exact h i j hj

theorem furtherEnds (h : Within length turn) (n : Nat) : Within length (furtherEnds greedy turn n) := by
  induction n with
  | zero =>
    intro i j hj
    obtain rfl := List.mem_singleton.1 hj
    exact ⟨Nat.le_refl _, .inl rfl⟩
  | succ n ih =>
    refine orStop (Within.flatMap ?_ ih)
    exact fun i j hj => h i j (List.mem_filter.1 hj).1

theorem unboundedEnds (h : Within length turn) : Within length (unboundedEnds length greedy turn) := by
  intro i k hk
  obtain ⟨j, hj, hk⟩ := List.mem_flatMap.1 hk
  have hij := h i j hj
  split at hk
  · obtain rfl := List.mem_singleton.1 hk
    exact ⟨Nat.le_refl _, .inl rfl⟩
  · have hjk := h.furtherEnds (length - j) j k hk
    omega

theorem upToEnds (h : Within length turn) (n : Nat) : Within length (upToEnds greedy turn n) := by
  induction n with
  | zero =>
    intro i j hj
    obtain rfl := List.mem_singleton.1 hj
    exact ⟨Nat.le_refl _, .inl rfl⟩
  | succ n ih => exact orStop (h.flatMap ih)

theorem repEnds (h : Within length turn) :
    ∀ (max : Option Nat) (min : Nat), Within length (repEnds length greedy turn max min)
  | none, 0 => orStop h.unboundedEnds
  | some n, 0 => h.upToEnds n
  | none, 1 => h.unboundedEnds
  | some n, 1 => h.flatMap (h.upToEnds (n - 1))
  | max, min + 2 => h.flatMap (h.repEnds (max.map (· - 1)) (min + 1))

end Within

/-- A match does not end before it begins, and if it is not empty it ends within the text. -/
theorem within_ends (t : List Char) (e : Expr) : Within t.length (e.ends t) := by
  induction e with
  | empty =>
    intro i j hj
    obtain rfl := List.mem_singleton.1 hj
    exact ⟨Nat.le_refl _, .inl rfl⟩
  | char set =>
    intro i j hj
    simp only [Expr.ends] at hj
    split at hj
    · next c hc =>
      have hi := (List.getElem?_eq_some_iff.1 hc).1
      split at hj
      · obtain rfl := List.mem_singleton.1 hj
        omega
      · contradiction
    · contradiction
  | anchor a =>
    intro i j hj
    simp only [Expr.ends] at hj
    split at hj
    · obtain rfl := List.mem_singleton.1 hj
      exact ⟨Nat.le_refl _, .inl rfl⟩
    · contradiction
  | cat a b iha ihb => exact iha.flatMap ihb
  | alt a b iha ihb =>
    intro i j hj
    rcases List.mem_append.1 hj with hj | hj
    · exact iha i j hj
    · exact ihb i j hj
  | rep min max greedy a ih => exact ih.repEnds max min
  | again greedy a ih => exact fun i j hj => ih.furtherEnds (t.length - i) i j hj

/-- More turns than there are characters left add nothing. -/
theorem furtherEnds_of_le (h : Within t.length turn) {n : Nat} (hn : t.length - i ≤ n) :
    furtherEnds greedy turn n i = furtherEnds greedy turn (t.length - i) i := by
  induction n using Nat.strongRecOn generalizing i with
  | _ n ih =>
    cases n with
    | zero => rw [Nat.le_zero.1 hn]
    | succ n =>
      have hlater : ∀ m ≤ n, t.length - i ≤ m + 1 →
          ((turn i).filter (i < ·)).flatMap (furtherEnds greedy turn m) =
            ((turn i).filter (i < ·)).flatMap fun j => furtherEnds greedy turn (t.length - j) j := by
        intro m hm hi
        refine List.flatMap_congr fun j hj => ih m (by omega) ?_
        have hij : i < j := by simpa using (List.mem_filter.1 hj).2
        omega
      rw [furtherEnds, hlater n (Nat.le_refl n) hn]
      cases hlength : t.length - i with
      | zero =>
        -- past the end of the text every turn is empty
        have hnone : (turn i).filter (i < ·) = [] := by
          refine List.filter_eq_nil_iff.2 fun j hj => ?_
          have := h i j hj
          simp only [decide_eq_true_eq]
          omega
        rw [hnone]
        cases greedy <;> rfl
      | succ m => rw [furtherEnds, hlater m (by omega) (by omega)]

/-- Further turns stop or go on with a turn that is not empty. -/
theorem furtherEnds_length_sub (h : Within t.length turn) (i : Nat) :
    furtherEnds greedy turn (t.length - i) i =
      orStop greedy i (((turn i).filter (i < ·)).flatMap fun j => furtherEnds greedy turn (t.length - j) j) := by
  rw [← furtherEnds_of_le h (Nat.le_succ (t.length - i)), furtherEnds]
  refine congrArg _ (List.flatMap_congr fun j hj => furtherEnds_of_le h ?_)
  have hij : i < j := by simpa using (List.mem_filter.1 hj).2
  omega

/-! ### Ends of matches -/

/-- The bounds of all repetitions are in order. -/
def Expr.WellFormed : Expr → Prop
  | .empty | .char _ | .anchor _ => True
  | .cat a b | .alt a b => a.WellFormed ∧ b.WellFormed
  | .rep min max _ a => (∀ n ∈ max, min ≤ n) ∧ a.WellFormed
  | .again _ a => a.WellFormed

/-- A repetition that needs a turn takes one and goes on. -/
theorem matches_rep_succ_iff {a : Expr} {min : Nat} {max : Option Nat} (hmax : max ≠ some 0) :
    Matches t (.rep (min + 1) max greedy a) i k ↔
      ∃ j, Matches t a i j ∧ Matches t (.rep min (max.map (· - 1)) greedy a) j k := by
  constructor
  · intro h
    cases h with
    | turn _ ha hr => exact ⟨_, ha, hr⟩
  · rintro ⟨j, ha, hr⟩
    exact .turn hmax ha hr

section Repetition

variable {a : Expr} (hturn : ∀ i j, j ∈ a.ends t i ↔ Matches t a i j)

include hturn

theorem matches_of_mem_furtherEnds {n : Nat} (h : k ∈ furtherEnds greedy (a.ends t) n i) :
    Matches t (.rep 0 none greedy a) i k := by
  induction n generalizing i with
  | zero =>
    obtain rfl := List.mem_singleton.1 h
    exact .stop
  | succ n ih =>
    rcases mem_orStop.1 h with rfl | h
    · exact .stop
    · obtain ⟨j, hj, hk⟩ := List.mem_flatMap.1 h
      exact .turn nofun ((hturn i j).1 (List.mem_filter.1 hj).1) (ih hk)

theorem mem_furtherEnds_of_matches (h : Matches t (.rep 0 none greedy a) i k) :
    k ∈ furtherEnds greedy (a.ends t) (t.length - i) i := by
  generalize he : Expr.rep 0 none greedy a = e at h
  induction h with
  | stop =>
    rw [furtherEnds_length_sub (within_ends t a)]
    exact mem_orStop.2 (.inl rfl)
  | @turn b min max greedy' i j k hmax ha hr _ ihr =>
    obtain ⟨rfl, rfl, rfl, rfl⟩ := he
    have hk := ihr rfl
    have hj := (hturn i j).2 ha
    rcases Nat.eq_or_lt_of_le (within_ends t a i j hj).1 with rfl | hij
    · exact hk
    · rw [furtherEnds_length_sub (within_ends t a)]
      exact mem_orStop.2 (.inr (List.mem_flatMap.2 ⟨j, List.mem_filter.2 ⟨hj, by simpa using hij⟩, hk⟩))
  | _ => cases he

theorem mem_furtherEnds_iff :
    k ∈ furtherEnds greedy (a.ends t) (t.length - i) i ↔ Matches t (.rep 0 none greedy a) i k :=
  ⟨matches_of_mem_furtherEnds hturn, mem_furtherEnds_of_matches hturn⟩

/-- After an empty turn nothing is matched that is not matched without it. -/
theorem mem_unboundedEnds_iff :
    k ∈ unboundedEnds t.length greedy (a.ends t) i ↔
      ∃ j, Matches t a i j ∧ Matches t (.rep 0 none greedy a) j k := by
  simp only [unboundedEnds, List.mem_flatMap]
  constructor
  · rintro ⟨j, hj, hk⟩
    have ha := (hturn i j).1 hj
    split at hk
    · next heq =>
      subst heq
      obtain rfl := List.mem_singleton.1 hk
      exact ⟨k, ha, .stop⟩
    · exact ⟨j, ha, (mem_furtherEnds_iff hturn).1 hk⟩
  · rintro ⟨j, ha, hr⟩
    have hj := (hturn i j).2 ha
    by_cases heq : j = i
    · subst heq
      have hk := (mem_furtherEnds_iff hturn).2 hr
      rw [furtherEnds_length_sub (within_ends t a)] at hk
      rcases mem_orStop.1 hk with rfl | hk
      · exact ⟨k, hj, by rw [if_pos rfl]; exact List.mem_singleton_self k⟩
      · obtain ⟨l, hl, hk⟩ := List.mem_flatMap.1 hk
        obtain ⟨hl, hjl⟩ := List.mem_filter.1 hl
        have hne : l ≠ j := Nat.ne_of_gt (by simpa using hjl)
        exact ⟨l, hl, by rwa [if_neg hne]⟩
    · exact ⟨j, hj, by rw [if_neg heq]; exact (mem_furtherEnds_iff hturn).2 hr⟩

theorem mem_upToEnds_iff {n : Nat} :
    k ∈ upToEnds greedy (a.ends t) n i ↔ Matches t (.rep 0 (some n) greedy a) i k := by
  induction n generalizing i with
  | zero =>
    rw [upToEnds, List.mem_singleton]
    constructor
    · rintro rfl
      exact .stop
    · intro h
      cases h with
      | stop => rfl
      | turn hmax => exact absurd rfl hmax
  | succ n ih =>
    rw [upToEnds, mem_orStop, List.mem_flatMap]
    constructor
    · rintro (rfl | ⟨j, hj, hk⟩)
      · exact .stop
      · exact .turn nofun ((hturn i j).1 hj) (ih.1 hk)
    · intro h
      cases h with
      | stop => exact .inl rfl
      | turn _ ha hr => exact .inr ⟨_, (hturn i _).2 ha, ih.2 hr⟩

theorem mem_repEnds_iff : ∀ {max : Option Nat} {min i : Nat}, (∀ n ∈ max, min ≤ n) →
    (k ∈ repEnds t.length greedy (a.ends t) max min i ↔ Matches t (.rep min max greedy a) i k)
  | none, 0, i, _ => by
    rw [repEnds, mem_orStop, mem_unboundedEnds_iff hturn]
    constructor
    · rintro (rfl | ⟨j, ha, hr⟩)
      · exact .stop
      · exact .turn nofun ha hr
    · intro h
      cases h with
      | stop => exact .inl rfl
      | turn _ ha hr => exact .inr ⟨_, ha, hr⟩
  | some n, 0, i, _ => mem_upToEnds_iff hturn
  | none, 1, i, _ => by
    have hmax : (none : Option Nat) ≠ some 0 := nofun
    rw [repEnds, mem_unboundedEnds_iff hturn]
    exact (matches_rep_succ_iff hmax).symm
  | some n, 1, i, hbounds => by
    have hn : 1 ≤ n := hbounds n rfl
    rw [repEnds, matches_rep_succ_iff (by simp; omega), List.mem_flatMap]
    exact exists_congr fun j => and_congr (hturn i j) (mem_upToEnds_iff hturn)
  | max, min + 2, i, hbounds => by
    have hmax : max ≠ some 0 := by
      rintro rfl
      exact absurd (hbounds 0 rfl) (by omega)
    have hrest : ∀ n ∈ max.map (· - 1), min + 1 ≤ n := by
      intro n hn
      obtain ⟨m, hm, rfl⟩ := Option.map_eq_some_iff.1 hn
      have := hbounds m hm
      omega
    rw [repEnds, matches_rep_succ_iff hmax, List.mem_flatMap]
    exact exists_congr fun j => and_congr (hturn i j) (mem_repEnds_iff hrest)

end Repetition

/-- The ends are those of the matches, if the bounds of all repetitions are in order. -/
theorem mem_ends_iff {e : Expr} (h : e.WellFormed) : j ∈ e.ends t i ↔ Matches t e i j := by
  induction e generalizing i j with
  | empty =>
    rw [Expr.ends, List.mem_singleton]
    constructor
    · rintro rfl
      exact .empty
    · rintro ⟨⟩
      rfl
  | char set =>
    rw [Expr.ends]
    constructor
    · intro hj
      split at hj
      · next c hc =>
        split at hj
        · next hs =>
          obtain rfl := List.mem_singleton.1 hj
          exact .char hc hs
        · contradiction
      · contradiction
    · rintro ⟨⟩
      rename_i c hc hs
      simp [hc, hs]
  | anchor a =>
    rw [Expr.ends]
    constructor
    · intro hj
      split at hj
      · next ha =>
        obtain rfl := List.mem_singleton.1 hj
        exact .anchor ha
      · contradiction
    · rintro ⟨⟩
      rename_i ha
      have hholds : a.holds (charBefore t i) t[i]? = true := ha
      rw [if_pos hholds]
      exact List.mem_singleton_self i
  | cat a b iha ihb =>
    rw [Expr.ends, List.mem_flatMap]
    constructor
    · rintro ⟨l, hl, hj⟩
      exact .cat ((iha h.1).1 hl) ((ihb h.2).1 hj)
    · rintro ⟨⟩
      rename_i l ha hb
      exact ⟨l, (iha h.1).2 ha, (ihb h.2).2 hb⟩
  | alt a b iha ihb =>
    rw [Expr.ends, List.mem_append, iha h.1, ihb h.2]
    constructor
    · rintro (ha | hb)
      · exact .left ha
      · exact .right hb
    · intro h
      cases h with
      | left ha => exact .inl ha
      | right hb => exact .inr hb
  | rep min max greedy a ih => exact mem_repEnds_iff (fun i j => ih h.2) h.1
  | again greedy a ih =>
    rw [Expr.ends, mem_furtherEnds_iff fun i j => ih h]
    constructor
    · exact .further
    · rintro ⟨⟩
      assumption

end ChatModeration.Pattern
