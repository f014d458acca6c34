import ChatModeration.Moderation.Repeats
import Mathlib.Algebra.BigOperators.Fin
import Mathlib.Data.List.DropRight
import Mathlib.Data.List.Induction
import Mathlib.Order.Bounds.Defs

/-!
# Counting repeats

Whether the message at some position counts can be said without the count: it does if it is similar and the run of
others right before it (`othersBefore`) is short enough (`countRepeats_eq_card`).  So no more is counted than what is
similar (`countSimilar_le`), and no less when everything is similar (`countSimilar_replicate`).  Where similar messages
are far enough apart (`Spaced`), only the first of them can count (`countSimilar_le_one`).
-/

namespace ChatModeration.Moderation

/-- What has been counted after some messages. -/
def observeAll (minGap : Nat) (similar : List Bool) : RepeatCount := similar.foldl (RepeatCount.observe minGap) {}

theorem countSimilar_eq (minGap : Nat) (similar : List Bool) :
    countSimilar minGap similar = (observeAll minGap similar).repeats := rfl

theorem observeAll_append_singleton (minGap : Nat) (similar : List Bool) (b : Bool) :
    observeAll minGap (similar ++ [b]) = (observeAll minGap similar).observe minGap b :=
  List.foldl_append ..

/-- What the next message adds to the repeats. -/
theorem RepeatCount.repeats_observe (minGap : Nat) (c : RepeatCount) (b : Bool) :
    (c.observe minGap b).repeats = c.repeats + if b = true ∧ (minGap = 0 ∨ c.gap < minGap) then 1 else 0 := by
  cases b with
  | false => rfl
  | true =>
    rw [observe, if_pos rfl]
    simp only [true_and]
    split <;> rfl

/-! ### The positions that count -/

/-- How many messages that are not similar stand right before a position, back to a similar one or to the start. -/
def othersBefore (similar : List Bool) (i : Nat) : Nat := ((similar.take i).rtakeWhile (!·)).length

theorem othersBefore_append {similar : List Bool} {i : Nat} (hi : i ≤ similar.length) (later : List Bool) :
    othersBefore (similar ++ later) i = othersBefore similar i := by
  rw [othersBefore, othersBefore, List.take_append_of_le_length hi]

/-- Others at the end of what stands before a position lengthen the run that ends where they begin. -/
theorem othersBefore_of_take_eq {similar before others : List Bool} {i : Nat}
    (hsplit : similar.take i = before ++ others) (h : true ∉ others) :
    othersBefore similar i = othersBefore before before.length + others.length := by
  have hall : ∀ b ∈ others.reverse, (!b) = true := by
    intro b hb
    cases b with
    | false => rfl
    | true => exact absurd (List.mem_reverse.1 hb) h
  have hrun : (before ++ others).rtakeWhile (!·) = before.rtakeWhile (!·) ++ others := by
    rw [List.rtakeWhile, List.rtakeWhile, List.reverse_append, List.takeWhile_append_of_pos hall, List.reverse_append,
      List.reverse_reverse]
  rw [othersBefore, othersBefore, hsplit, List.take_length, hrun, List.length_append]

/-- The others before a position are the longest run of messages that are not similar and that ends there. -/
theorem isGreatest_othersBefore (similar : List Bool) (i : Nat) :
    IsGreatest {n | ∃ before, similar.take i = before ++ List.replicate n false} (othersBefore similar i) := by
  constructor
  · have hothers : (similar.take i).rtakeWhile (!·) = List.replicate (othersBefore similar i) false :=
      List.eq_replicate_iff.2 ⟨rfl, fun b hb => by simpa using List.mem_rtakeWhile_imp hb⟩
    exact ⟨_, by rw [← hothers, List.rdropWhile_append_rtakeWhile]⟩
  · rintro n ⟨before, hsplit⟩
    have hnone : true ∉ List.replicate n false := fun hmem => Bool.noConfusion (List.eq_of_mem_replicate hmem)
    rw [othersBefore_of_take_eq hsplit hnone, List.length_replicate]
    exact Nat.le_add_left n _

/-- The gap that is counted along some messages is the run of others at their end. -/
theorem gap_observeAll_eq (minGap : Nat) (similar : List Bool) :
    (observeAll minGap similar).gap = othersBefore similar similar.length := by
  rw [othersBefore, List.take_length]
  induction similar using List.reverseRecOn with
  | nil => rfl
  | append_singleton similar b ih =>
    rw [observeAll_append_singleton, RepeatCount.observe]
    cases b with
    | true =>
      rw [List.rtakeWhile_concat_neg _ _ _ (by decide)]
      rfl
    | false =>
      rw [List.rtakeWhile_concat_pos _ _ _ (by decide), List.length_append, ← ih]
      rfl

/-- Whether the message at a position counts: it is similar, and the run of others right before it is not too long. -/
def CountsAt (minGap : Nat) (similar : List Bool) (i : Nat) : Prop :=
  similar[i]? = some true ∧ (minGap = 0 ∨ othersBefore similar i < minGap)

instance (minGap : Nat) (similar : List Bool) : DecidablePred (CountsAt minGap similar) :=
  fun _ => inferInstanceAs (Decidable (_ ∧ _))

/-- A message counts or not whatever comes later. -/
theorem countsAt_append {similar : List Bool} {i : Nat} (hi : i < similar.length) (minGap : Nat) (later : List Bool) :
    CountsAt minGap (similar ++ later) i ↔ CountsAt minGap similar i := by
  rw [CountsAt, CountsAt, List.getElem?_append_left hi, othersBefore_append (Nat.le_of_lt hi)]

theorem countsAt_length (minGap : Nat) (similar : List Bool) (b : Bool) :
    CountsAt minGap (similar ++ [b]) similar.length ↔
      b = true ∧ (minGap = 0 ∨ (observeAll minGap similar).gap < minGap) := by
  rw [CountsAt, List.getElem?_concat_length, Option.some_inj, othersBefore_append (Nat.le_refl _),
    gap_observeAll_eq minGap]

/-- The repeats are the positions that count. -/
theorem countSimilar_eq_card (minGap : Nat) (similar : List Bool) :
    countSimilar minGap similar = ((Finset.range similar.length).filter (CountsAt minGap similar)).card := by
  rw [countSimilar_eq, Finset.card_filter]
  -- from the end, where the gap that has been counted is the run before the last position
  induction similar using List.reverseRecOn with
  | nil => rfl
  | append_singleton similar b ih =>
    have hbefore : ∀ i ∈ Finset.range similar.length,
        (if CountsAt minGap (similar ++ [b]) i then 1 else 0) = if CountsAt minGap similar i then 1 else 0 :=
      fun i hi => if_congr (countsAt_append (Finset.mem_range.1 hi) minGap [b]) rfl rfl
    calc (observeAll minGap (similar ++ [b])).repeats
        = (observeAll minGap similar).repeats +
            if b = true ∧ (minGap = 0 ∨ (observeAll minGap similar).gap < minGap) then 1 else 0 := by
          rw [observeAll_append_singleton, RepeatCount.repeats_observe]
      _ = (∑ i ∈ Finset.range similar.length, if CountsAt minGap similar i then 1 else 0) +
            if CountsAt minGap (similar ++ [b]) similar.length then 1 else 0 := by
          rw [ih, if_congr (countsAt_length minGap similar b) rfl rfl]
      _ = ∑ i ∈ Finset.range (similar ++ [b]).length, if CountsAt minGap (similar ++ [b]) i then 1 else 0 := by
          rw [List.length_append, List.length_singleton, Finset.sum_range_succ, Finset.sum_congr rfl hbefore]

/-- Others at the start are a gap like those between similar messages, and a gap as long as the limit is too long. -/
example : countSimilar 2 [false, true, false, false, true, false, true] = 2 ∧
    countSimilar 1 [false, true, false, false, true, false, true] = 0 := by decide

section Repeats

variable {κ : Type} [DecidableEq κ]

/--
The number of repeats is the number of positions in the history with the current message at its end where a message is
similar enough to the current one and, unless no gap is too long, the run of others right before it is short enough.
-/
theorem countRepeats_eq_card (threshold : Binary64) (minGap : Nat) (current : Fingerprint κ)
    (history : List (Fingerprint κ)) :
    let messages := history ++ [current]
    let similar := messages.map (isSimilar threshold current)
    countRepeats threshold minGap current history =
      (Finset.univ.filter fun i : Fin messages.length =>
        threshold.le (current.similarity messages[i]) = true ∧
          (minGap = 0 ∨ othersBefore similar i < minGap)).card := by
  intro messages similar
  have hcounts : ∀ i : Fin messages.length, CountsAt minGap similar i ↔
      threshold.le (current.similarity messages[i]) = true ∧ (minGap = 0 ∨ othersBefore similar i < minGap) := by
    intro i
    rw [CountsAt, List.getElem?_map, List.getElem?_eq_getElem i.isLt, Option.map_some, Option.some_inj]
    rfl
  rw [countRepeats, countSimilar_eq_card, Finset.card_filter, Finset.card_filter, List.length_map,
    ← Fin.sum_univ_eq_sum_range]
  exact Finset.sum_congr rfl fun i _ => if_congr (hcounts i) rfl rfl

end Repeats

/-! ### Bounds on the repeats -/

/-- Where every gap is allowed all similar messages count. -/
theorem countSimilar_zero (similar : List Bool) : countSimilar 0 similar = similar.count true := by
  rw [countSimilar_eq]
  induction similar using List.reverseRecOn with
  | nil => rfl
  | append_singleton similar b ih =>
    rw [observeAll_append_singleton, List.count_append, ← ih]
    cases b with
    | true => rfl
    | false => rfl

/-- Only similar messages are counted. -/
theorem countSimilar_le (minGap : Nat) (similar : List Bool) : countSimilar minGap similar ≤ similar.count true := by
  rw [← countSimilar_zero, countSimilar_eq_card, countSimilar_eq_card]
  refine Finset.card_le_card (Finset.monotone_filter_right _ ?_)
  rintro i - ⟨hsimilar, -⟩
  exact ⟨hsimilar, .inl rfl⟩

/-- Messages that are all similar are all counted, whatever gap is tolerated. -/
theorem countSimilar_replicate (minGap n : Nat) : countSimilar minGap (List.replicate n true) = n := by
  have hall : observeAll minGap (List.replicate n true) = ⟨0, n⟩ := by
    induction n with
    | zero => rfl
    | succ n ih =>
      rw [List.replicate_succ', observeAll_append_singleton, ih, RepeatCount.observe, if_pos rfl,
        if_pos (Nat.eq_zero_or_pos minGap)]
  rw [countSimilar_eq, hall]

/-! ### Similar messages that are far apart -/

/-- Two similar messages that have only others between them have at least `gap` of them. -/
def Spaced (gap : Nat) (similar : List Bool) : Prop :=
  ∀ before between after, similar = before ++ true :: between ++ true :: after → true ∉ between →
    gap ≤ between.length

theorem Spaced.of_append {gap : Nat} {first second : List Bool} (h : Spaced gap (first ++ second)) :
    Spaced gap first ∧ Spaced gap second := by
  constructor
  · rintro before between after rfl
    exact h before between (after ++ second) (by simp only [List.append_assoc, List.cons_append])
  · rintro before between after rfl
    exact h (first ++ before) between after (by simp only [List.append_assoc])

/-- The gap is counted from the last similar message on. -/
theorem gap_observeAll (minGap : Nat) (before between : List Bool) (h : true ∉ between) :
    (observeAll minGap (before ++ true :: between)).gap = between.length := by
  have hsplit : (before ++ true :: between).take (before ++ true :: between).length = before ++ [true] ++ between := by
    rw [List.take_length, List.append_cons]
  rw [gap_observeAll_eq, othersBefore_of_take_eq hsplit h, othersBefore, List.take_length,
    List.rtakeWhile_concat_neg _ _ _ (by decide), List.length_nil, Nat.zero_add]

theorem exists_last_true {similar : List Bool} (h : true ∈ similar) :
    ∃ before between, similar = before ++ true :: between ∧ true ∉ between := by
  obtain ⟨between, before, hsplit, hnone⟩ := List.eq_append_cons_of_mem (List.mem_reverse.2 h)
  refine ⟨before.reverse, between.reverse, ?_, by simpa using hnone⟩
  rw [← List.reverse_reverse similar, hsplit]
  simp

/-- Where similar messages are far enough apart, only the first of them can count. -/
theorem countSimilar_le_one {minGap : Nat} (hgap : 0 < minGap) {similar : List Bool} (h : Spaced minGap similar) :
    countSimilar minGap similar ≤ 1 := by
  induction similar using List.reverseRecOn with
  | nil => exact Nat.zero_le 1
  | append_singleton similar b ih =>
    have hprefix := ih h.of_append.1
    cases b with
    | false =>
      rw [countSimilar_eq, observeAll_append_singleton]
      exact hprefix
    | true =>
      by_cases hsome : true ∈ similar
      -- there was a similar one, and it is too far away
      · obtain ⟨before, between, rfl, hnone⟩ := exists_last_true hsome
        have hfar : minGap ≤ between.length := h before between [] rfl hnone
        have hlast := gap_observeAll minGap before between hnone
        rw [countSimilar_eq, observeAll_append_singleton, RepeatCount.observe, if_pos rfl, if_neg (by omega)]
        exact hprefix
      · have hle := countSimilar_le minGap (similar ++ [true])
        rwa [List.count_append, List.count_eq_zero_of_not_mem hsome] at hle

end ChatModeration.Moderation
