import ChatModeration.Proofs.Pattern.Ends

/-!
# Ways and ends

The ways in which an expression goes on at a position lead to the ends of its matches, in the same order of preference
(`alike_ways`).  An end that is listed again after a preferred one makes no difference to a search, so two lists are
alike if every search for a first hit has the same result in both (`Alike`).
-/

namespace ChatModeration.Pattern

/-! ### Lists that are alike -/

/-- Every search for the first hit has the same result. -/
def Alike (l m : List Nat) : Prop := ∀ (β : Type) (hit : Nat → Option β), l.findSome? hit = m.findSome? hit

theorem findSome?_flatMap {α β γ : Type} (l : List α) (f : α → List β) (hit : β → Option γ) :
    (l.flatMap f).findSome? hit = l.findSome? fun a => (f a).findSome? hit := by
  induction l with
  | nil => rfl
  | cons a l ih =>
    rw [List.flatMap_cons, List.findSome?_append, ih, List.findSome?_cons]
    cases (f a).findSome? hit <;> rfl

namespace Alike

variable {l m l' m' : List Nat}

theorem refl (l : List Nat) : Alike l l := fun _ _ => rfl

theorem symm (h : Alike l m) : Alike m l := fun β hit => (h β hit).symm

theorem trans {n : List Nat} (h : Alike l m) (h' : Alike m n) : Alike l n := fun β hit => (h β hit).trans (h' β hit)

theorem append (h : Alike l m) (h' : Alike l' m') : Alike (l ++ l') (m ++ m') := by
  intro β hit
  rw [List.findSome?_append, List.findSome?_append, h β hit, h' β hit]

theorem flatMap_left (h : Alike l m) (f : Nat → List Nat) : Alike (l.flatMap f) (m.flatMap f) := by
  intro β hit
  rw [findSome?_flatMap, findSome?_flatMap]
  exact h β _

theorem flatMap_right {α : Type} {l : List α} {f g : α → List Nat} (h : ∀ a ∈ l, Alike (f a) (g a)) :
    Alike (l.flatMap f) (l.flatMap g) := by
  intro β hit
  rw [findSome?_flatMap, findSome?_flatMap]
  induction l with
  | nil => rfl
  | cons a l ih =>
    obtain ⟨ha, hl⟩ := List.forall_mem_cons.1 h
    rw [List.findSome?_cons, List.findSome?_cons, ha β hit, ih hl]

theorem orStop {i : Nat} {greedy : Bool} (h : Alike l m) : Alike (orStop greedy i l) (Pattern.orStop greedy i m) := by
  cases greedy
  · exact append (refl [i]) h
  · exact append h (refl [i])

end Alike

/-! ### Ends of ways -/

/-- The ends to which a way leads at a position. -/
def Way.ends (t : List Char) (i : Nat) : Way → List Nat
  | .finished => [i]
  | .take set rest =>
    match t[i]? with
    | some c => if set.mem c then rest.ends t (i + 1) else []
    | none => []

variable {t : List Char} {i j : Nat}

theorem Way.lt_of_mem_ends_take {set : CharSet} {rest : Expr} (h : j ∈ (Way.take set rest).ends t i) : i < j := by
  simp only [Way.ends] at h
  split at h
  · split at h
    · exact (within_ends t rest (i + 1) j h).1
    · contradiction
  · contradiction

theorem ends_followedBy (a b : Expr) (i : Nat) : (a.followedBy b).ends t i = (a.ends t i).flatMap (b.ends t) := by
  cases a with
  | empty => simp [Expr.followedBy, Expr.ends]
  | _ => rfl

theorem Way.ends_take_followedBy (set : CharSet) (rest next : Expr) :
    (Way.take set (rest.followedBy next)).ends t i = ((Way.take set rest).ends t i).flatMap (next.ends t) := by
  simp only [Way.ends]
  split
  · split
    · exact ends_followedBy rest next (i + 1)
    · rfl
  · rfl

namespace Way

/-- The ways of what another expression follows lead where the ways of that one lead from the ends of the first. -/
theorem alike_followedBy {next : Expr} {nextWays ways : List Way} {f : Nat → List Nat}
    (hnext : ∀ j, i < j → f j = next.ends t j) (hways : Alike (nextWays.flatMap (Way.ends t i)) (f i)) :
    Alike ((followedBy next nextWays ways).flatMap (Way.ends t i)) ((ways.flatMap (Way.ends t i)).flatMap f) := by
  rw [followedBy, List.flatMap_assoc, List.flatMap_assoc]
  refine Alike.flatMap_right fun way _ => ?_
  cases way with
  | finished =>
    simp only [Way.ends, List.flatMap_singleton]
    exact hways
  | take set rest =>
    have htake : ((Way.take set rest).ends t i).flatMap f = ((Way.take set rest).ends t i).flatMap (next.ends t) :=
      List.flatMap_congr fun j hj => hnext j (lt_of_mem_ends_take hj)
    simp only [List.flatMap_singleton, ends_take_followedBy, htake]
    exact Alike.refl _

/-- To finish once more, after a preferred way of doing so, adds nothing. -/
theorem alike_orElse (ways others : List Way) :
    Alike ((orElse ways others).flatMap (Way.ends t i))
      (ways.flatMap (Way.ends t i) ++ others.flatMap (Way.ends t i)) := by
  unfold orElse
  split
  · next hfinished =>
    intro β hit
    rw [List.flatMap_append, List.findSome?_append, List.findSome?_append]
    cases hfound : (ways.flatMap (Way.ends t i)).findSome? hit with
    | some b => rfl
    | none =>
      have hnone : hit i = none := by
        refine List.findSome?_eq_none_iff.1 hfound i (List.mem_flatMap.2 ⟨finished, ?_, ?_⟩)
        · exact List.contains_iff_mem.1 hfinished
        · exact List.mem_singleton_self i
      rw [Option.none_or, Option.none_or]
      induction others with
      | nil => rfl
      | cons way others ih =>
        by_cases hway : way = finished
        · subst hway
          rw [List.filter_cons_of_neg (by simp), ih, List.flatMap_cons, List.findSome?_append]
          simp [Way.ends, hnone]
        · rw [List.filter_cons_of_pos (by simpa using hway), List.flatMap_cons, List.flatMap_cons,
            List.findSome?_append, List.findSome?_append, ih]
  · rw [List.flatMap_append]
    exact Alike.refl _

/-- To go on or to finish, whichever is preferred. -/
theorem alike_orStop (greedy : Bool) {turn : List Way} {l : List Nat} (h : Alike (turn.flatMap (Way.ends t i)) l) :
    Alike ((if greedy then orElse turn [finished] else orElse [finished] turn).flatMap (Way.ends t i))
      (orStop greedy i l) := by
  have hstop : Alike ([finished].flatMap (Way.ends t i)) [i] := Alike.refl [i]
  cases greedy
  · exact (alike_orElse _ _).trans (hstop.append h)
  · exact (alike_orElse _ _).trans (h.append hstop)

/-! ### Repetitions -/

section Repetition

variable {a : Expr} {ways : List Way} (greedy : Bool) (h : Alike (ways.flatMap (Way.ends t i)) (a.ends t i))

include h

theorem alike_upTo (n : Nat) :
    Alike ((upTo greedy a ways n).flatMap (Way.ends t i)) (upToEnds greedy (a.ends t) n i) := by
  induction n with
  | zero => exact Alike.refl [i]
  | succ n ih => exact alike_orStop greedy ((alike_followedBy (fun _ _ => rfl) ih).trans (h.flatMap_left _))

/-- A turn that is followed by further ones, if it is not empty. -/
theorem alike_turn :
    Alike ((followedBy (.again greedy a) [finished] ways).flatMap (Way.ends t i))
      (unboundedEnds t.length greedy (a.ends t) i) := by
  refine Alike.trans (alike_followedBy ?_ ?_) (h.flatMap_left _)
  · intro j hj
    rw [if_neg (Nat.ne_of_gt hj)]
    rfl
  · rw [if_pos rfl]
    exact Alike.refl [i]

theorem alike_anyTurns :
    Alike ((anyTurns greedy a ways).flatMap (Way.ends t i))
      (orStop greedy i (unboundedEnds t.length greedy (a.ends t) i)) :=
  alike_orStop greedy (alike_turn greedy h)

theorem alike_furtherTurns :
    Alike ((furtherTurns greedy a ways).flatMap (Way.ends t i))
      (furtherEnds greedy (a.ends t) (t.length - i) i) := by
  rw [furtherEnds_length_sub (within_ends t a)]
  have hturn : Alike ((taking (.again greedy a) ways).flatMap (Way.ends t i))
      (((a.ends t i).filter (i < ·)).flatMap fun j => furtherEnds greedy (a.ends t) (t.length - j) j) := by
    have hfilter : ∀ l : List Nat, (l.filter (i < ·)).flatMap
        (fun j => furtherEnds greedy (a.ends t) (t.length - j) j) =
          l.flatMap fun j => if i < j then furtherEnds greedy (a.ends t) (t.length - j) j else [] := by
      intro l
      induction l with
      | nil => rfl
      | cons j l ih => by_cases hj : i < j <;> simp [hj, ih]
    rw [hfilter]
    refine Alike.trans (alike_followedBy ?_ ?_) (h.flatMap_left _)
    · intro j hj
      rw [if_pos hj]
      rfl
    · rw [if_neg (Nat.lt_irrefl i)]
      exact Alike.refl []
  have hstop : Alike ([finished].flatMap (Way.ends t i)) [i] := Alike.refl [i]
  cases greedy
  · exact hstop.append hturn
  · rw [furtherTurns, if_pos rfl, List.flatMap_append]
    exact hturn.append hstop

theorem alike_turns : ∀ (max : Option Nat) (min : Nat),
    Alike ((turns greedy a ways max min).flatMap (Way.ends t i)) (repEnds t.length greedy (a.ends t) max min i)
  | none, 0 => alike_anyTurns greedy h
  | some n, 0 => alike_upTo greedy h n
  | none, 1 => alike_turn greedy h
  | some n, 1 => (alike_followedBy (fun _ _ => rfl) (alike_upTo greedy h (n - 1))).trans (h.flatMap_left _)
  | max, min + 2 =>
    (alike_followedBy (fun _ _ => rfl) (alike_turns (max.map (· - 1)) (min + 1))).trans (h.flatMap_left _)

end Repetition

end Way

/-- The ways of an expression lead to the ends of its matches, in the order of preference. -/
theorem alike_ways (e : Expr) :
    Alike ((e.ways (charBefore t i) t[i]?).flatMap (Way.ends t i)) (e.ends t i) := by
  induction e with
  | empty => exact Alike.refl [i]
  | char set =>
    rw [Expr.ways, List.flatMap_singleton]
    exact Alike.refl _
  | anchor a =>
    rw [Expr.ways, Expr.ends]
    split
    · exact Alike.refl [i]
    · exact Alike.refl []
  | cat a b iha ihb => exact (Way.alike_followedBy (fun _ _ => rfl) ihb).trans (iha.flatMap_left _)
  | alt a b iha ihb => exact (Way.alike_orElse _ _).trans (iha.append ihb)
  | rep min max greedy a ih => exact Way.alike_turns greedy ih max min
  | again greedy a ih => exact Way.alike_furtherTurns greedy ih

end ChatModeration.Pattern
