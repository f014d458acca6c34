import ChatModeration.Proofs.Similarity
import Mathlib.Algebra.Order.Field.Basic
import Mathlib.Algebra.Order.Field.Rat
import Mathlib.Data.Finset.Card
import Mathlib.Data.Rat.Lemmas
import Mathlib.Tactic.Zify

/-!
# Fingerprints as sets

The tokens of a fingerprint are a finite set (`Fingerprint.toFinset`), and two fingerprints are the same if their sets
are (`same_iff`).  What is counted along the smaller of two fingerprints is the size of the intersection
(`overlap_eq_card`), and what is left of the sum of both sizes is that of the union (`unionSize_eq_card`).  So the exact
similarity of two fingerprints (`ratio`) is the Jaccard index of their sets, with all its laws (`compares_ofTokens`),
and `similarity` is the number nearest to it (`similarity_eq_nearest`).
-/

namespace ChatModeration

/-! ### Nearest numbers -/

namespace Binary64

/-- The number nearest to a rational number; it is infinite if that is out of range. -/
def nearest (q : ℚ) : Binary64 := ofRatio (decide (q < 0)) q.num.natAbs q.den

theorem roundDiv_mul_mul {k : Nat} (hk : 0 < k) (num den : Nat) : roundDiv (k * num) (k * den) = roundDiv num den := by
  have hless : 2 * (k * (num % den)) < k * den ↔ 2 * (num % den) < den := by
    rw [Nat.mul_left_comm, Nat.mul_lt_mul_left hk]
  have htie : 2 * (k * (num % den)) = k * den ↔ 2 * (num % den) = den := by
    rw [Nat.mul_left_comm, Nat.mul_right_inj (Nat.ne_of_gt hk)]
  unfold roundDiv
  simp only [Nat.mul_div_mul_left _ _ hk, Nat.mul_mod_mul_left, hless, htie]

/-- A quotient that is not in lowest terms is rounded to the same number. -/
theorem ofRatio_mul_mul {k : Nat} (hk : 0 < k) (negative : Bool) (num den : Nat) :
    ofRatio negative (k * num) (k * den) = ofRatio negative num den := by
  unfold ofRatio
  dsimp only
  rw [Nat.mul_assoc k num, Nat.mul_div_mul_left _ _ hk, Nat.mul_assoc k den, roundDiv_mul_mul hk]

/-- The rounded quotient of two natural numbers is the number nearest to their quotient. -/
theorem ofRatio_eq_nearest (num : Nat) {den : Nat} (h : 0 < den) :
    ofRatio false num den = nearest ((num : ℚ) / den) := by
  have hsign : ¬ (num : ℚ) / den < 0 := not_lt.2 (div_nonneg (Nat.cast_nonneg _) (Nat.cast_nonneg _))
  have hden : (den : ℤ) ≠ 0 := by omega
  obtain ⟨k, hnum, hlowest⟩ := Rat.exists_eq_mul_div_num_and_eq_mul_div_den (num : ℤ) hden
  push_cast at hnum hlowest
  generalize (num : ℚ) / den = q at hsign hnum hlowest ⊢
  have hk : 0 < k := by
    have hprod : 0 < k * (q.den : ℤ) := by omega
    exact pos_of_mul_pos_left hprod (Int.natCast_nonneg _)
  have hnonneg : 0 ≤ q.num := Rat.num_nonneg.2 (not_lt.1 hsign)
  lift k to ℕ using le_of_lt hk
  have hnum' : num = k * q.num.natAbs := by
    zify
    rw [abs_of_nonneg hnonneg]
    exact hnum
  have hden' : den = k * q.den := by exact_mod_cast hlowest
  rw [nearest, decide_eq_false hsign, hnum', hden', ofRatio_mul_mul (by omega)]

end Binary64

/-! ### Sets of tokens -/

/-- The number of common elements of two sets relative to that of all their elements. -/
def jaccard {κ : Type} [DecidableEq κ] (A B : Finset κ) : ℚ := ((A ∩ B).card : ℚ) / (A ∪ B).card

section Jaccard

variable {κ : Type} [DecidableEq κ] (A B : Finset κ)

theorem jaccard_comm : jaccard A B = jaccard B A := by
  rw [jaccard, jaccard, Finset.inter_comm, Finset.union_comm]

theorem jaccard_nonneg : 0 ≤ jaccard A B := div_nonneg (Nat.cast_nonneg _) (Nat.cast_nonneg _)

theorem jaccard_le_one : jaccard A B ≤ 1 :=
  div_le_one_of_le₀ (Nat.cast_le.2 (Finset.card_le_card Finset.inter_subset_union)) (Nat.cast_nonneg _)

variable {A B}

theorem card_union_eq_zero : (A ∪ B).card = 0 ↔ A = ∅ ∧ B = ∅ := by
  rw [Finset.card_eq_zero, Finset.union_eq_empty]

/-- Sets have all their elements in common if they are the same set, and not the empty one. -/
theorem jaccard_eq_one_iff : jaccard A B = 1 ↔ A = B ∧ A.Nonempty := by
  constructor
  · intro hone
    have hpos : ((A ∪ B).card : ℚ) ≠ 0 := by
      intro hzero
      rw [jaccard, hzero, div_zero] at hone
      exact zero_ne_one hone
    have hcard : (A ∩ B).card = (A ∪ B).card := by
      exact_mod_cast (div_eq_one_iff_eq hpos).1 hone
    have hall : A ∩ B = A ∪ B := Finset.eq_of_subset_of_card_le Finset.inter_subset_union (Nat.le_of_eq hcard.symm)
    have heq : A = B := inf_eq_sup.1 hall
    refine ⟨heq, Finset.nonempty_iff_ne_empty.2 fun hempty => hpos ?_⟩
    exact_mod_cast card_union_eq_zero.2 ⟨hempty, heq ▸ hempty⟩
  · rintro ⟨rfl, hne⟩
    rw [jaccard, Finset.inter_self, Finset.union_self]
    exact div_self (by exact_mod_cast Finset.card_ne_zero.2 hne)

/-- Sets have nothing in common if they are disjoint. -/
theorem jaccard_eq_zero_iff : jaccard A B = 0 ↔ Disjoint A B := by
  rw [jaccard, div_eq_zero_iff, Nat.cast_eq_zero, Nat.cast_eq_zero, Finset.card_eq_zero, card_union_eq_zero,
    Finset.disjoint_iff_inter_eq_empty, or_iff_left_of_imp]
  rintro ⟨rfl, -⟩
  exact Finset.empty_inter B

end Jaccard

/-! ### Fingerprints -/

namespace Fingerprint

variable {κ : Type} [DecidableEq κ] {f g : Fingerprint κ}

/-- The set of the tokens of a fingerprint. -/
def toFinset (f : Fingerprint κ) : Finset κ := f.tokens.toFinset

theorem toFinset_ofTokens (tokens : List κ) : (ofTokens tokens).toFinset = tokens.toFinset := by
  ext t
  rw [toFinset, List.mem_toFinset, List.mem_toFinset, mem_ofTokens]

theorem size_eq_card (hf : f.tokens.Nodup) : f.size = f.toFinset.card := (List.toFinset_card_of_nodup hf).symm

theorem length_filter_contains (hf : f.tokens.Nodup) (g : Fingerprint κ) :
    (f.tokens.filter g.contains).length = (f.toFinset ∩ g.toFinset).card := by
  rw [← List.toFinset_card_of_nodup (hf.filter _)]
  congr 1
  ext t
  simp [toFinset, contains]

/-- Whichever of two fingerprints is looked through, what is counted is their intersection. -/
theorem overlap_eq_card (hf : f.tokens.Nodup) (hg : g.tokens.Nodup) :
    f.overlap g = (f.toFinset ∩ g.toFinset).card := by
  unfold overlap
  split
  · exact length_filter_contains hf g
  · rw [length_filter_contains hg f, Finset.inter_comm]

/-- The difference by which the number of all tokens is found does not fall below zero. -/
theorem unionSize_add_overlap (f g : Fingerprint κ) : f.unionSize g + f.overlap g = f.size + g.size := by
  obtain ⟨hf, -⟩ := f.overlap_le g
  unfold unionSize
  omega

theorem unionSize_eq_card (hf : f.tokens.Nodup) (hg : g.tokens.Nodup) :
    f.unionSize g = (f.toFinset ∪ g.toFinset).card := by
  have hboth := Finset.card_union_add_card_inter f.toFinset g.toFinset
  have hsum := f.unionSize_add_overlap g
  rw [size_eq_card hf, size_eq_card hg, overlap_eq_card hf hg] at hsum
  omega

/-- Fingerprints are the same if they have the same set of tokens. -/
theorem same_iff (hf : f.tokens.Nodup) (hg : g.tokens.Nodup) : f.same g = true ↔ f.toFinset = g.toFinset := by
  have hsubset : f.tokens.all g.contains = true ↔ f.toFinset ⊆ g.toFinset := by
    simp [toFinset, contains, Finset.subset_iff]
  rw [same, Bool.and_eq_true, beq_iff_eq, hsubset, size_eq_card hf, size_eq_card hg]
  constructor
  · rintro ⟨hcard, hle⟩
    exact Finset.eq_of_subset_of_card_le hle (Nat.le_of_eq hcard.symm)
  · intro heq
    rw [heq]
    exact ⟨rfl, Finset.Subset.refl _⟩

/-! ### Exact similarity -/

/-- The part of all tokens that two fingerprints have in common, before it is rounded. -/
def ratio (f g : Fingerprint κ) : ℚ := if f.unionSize g = 0 then 0 else (f.overlap g : ℚ) / f.unionSize g

/-- The similarity of two fingerprints is the number nearest to their exact similarity. -/
theorem similarity_eq_nearest (f g : Fingerprint κ) : f.similarity g = .nearest (f.ratio g) := by
  unfold similarity ratio
  split
  · exact (Binary64.ofRatio_zero 1 Nat.one_pos).symm
  · exact Binary64.ofRatio_eq_nearest _ (Nat.pos_of_ne_zero ‹_›)

theorem ratio_eq_jaccard (hf : f.tokens.Nodup) (hg : g.tokens.Nodup) :
    f.ratio g = jaccard f.toFinset g.toFinset := by
  rw [ratio, jaccard, overlap_eq_card hf hg, unionSize_eq_card hf hg]
  split
  · next hzero => rw [hzero, Nat.cast_zero, div_zero]
  · rfl

/-- How two fingerprints compare, in terms of the sets `A` and `B` of their tokens. -/
structure Compares (f g : Fingerprint κ) (A B : Finset κ) : Prop where
  overlap : f.overlap g = (A ∩ B).card
  /-- The difference by which the number of all tokens is found does not fall below zero. -/
  overlap_le_sizes : f.overlap g ≤ f.size + g.size
  unionSize : f.unionSize g = (A ∪ B).card
  rounded : f.similarity g = .nearest (f.ratio g)
  ratio : f.ratio g = ((A ∩ B).card : ℚ) / (A ∪ B).card
  ratio_of_empty : A = ∅ → B = ∅ → f.ratio g = 0
  symmetric : f.ratio g = g.ratio f
  nonneg : 0 ≤ f.ratio g
  le_one : f.ratio g ≤ 1
  eq_one_iff : f.ratio g = 1 ↔ A = B ∧ A.Nonempty
  eq_zero_iff : f.ratio g = 0 ↔ Disjoint A B

/-- Fingerprints without repetition compare as their sets do. -/
theorem compares_toFinset (hf : f.tokens.Nodup) (hg : g.tokens.Nodup) : f.Compares g f.toFinset g.toFinset where
  overlap := overlap_eq_card hf hg
  overlap_le_sizes := Nat.le_add_right_of_le (f.overlap_le g).1
  unionSize := unionSize_eq_card hf hg
  rounded := similarity_eq_nearest f g
  ratio := ratio_eq_jaccard hf hg
  ratio_of_empty := by
    intro hempty _
    rw [ratio_eq_jaccard hf hg, jaccard_eq_zero_iff, hempty]
    exact Finset.disjoint_empty_left _
  symmetric := by rw [ratio_eq_jaccard hf hg, ratio_eq_jaccard hg hf, jaccard_comm]
  nonneg := by
    rw [ratio_eq_jaccard hf hg]
    exact jaccard_nonneg _ _
  le_one := by
    rw [ratio_eq_jaccard hf hg]
    exact jaccard_le_one _ _
  eq_one_iff := by rw [ratio_eq_jaccard hf hg, jaccard_eq_one_iff]
  eq_zero_iff := by rw [ratio_eq_jaccard hf hg, jaccard_eq_zero_iff]

/-- Lists of the same tokens have the same set of hashes. -/
theorem toFinset_hashes_congr {τ : Type} (hash : τ → κ) {us vs : List τ} (h : ∀ t, t ∈ us ↔ t ∈ vs) :
    (ofTokens (us.map hash)).toFinset = (ofTokens (vs.map hash)).toFinset := by
  rw [toFinset_ofTokens, toFinset_ofTokens]
  ext k
  simp only [List.mem_toFinset, List.mem_map, h]

/--
The exact similarity of the fingerprints of two lists of tokens, whose hashes are the sets `A` and `B`, is the part that
`A ∩ B` is of `A ∪ B`.  It is symmetric and lies between zero and one; it is one just for the same hashes, of which
there is at least one, and zero just for disjoint ones; and it does not depend on the order and the repetition of the
tokens.
-/
theorem compares_ofTokens {τ : Type} (hash : τ → κ) (xs ys : List τ) :
    Compares (ofTokens (xs.map hash)) (ofTokens (ys.map hash)) (xs.map hash).toFinset (ys.map hash).toFinset ∧
      ∀ xs' ys' : List τ, (∀ t, t ∈ xs' ↔ t ∈ xs) → (∀ t, t ∈ ys' ↔ t ∈ ys) →
        ratio (ofTokens (xs'.map hash)) (ofTokens (ys'.map hash)) =
          ratio (ofTokens (xs.map hash)) (ofTokens (ys.map hash)) := by
  have hnodup : ∀ us : List τ, (ofTokens (us.map hash)).tokens.Nodup := fun us => nodup_ofTokens _
  constructor
  · rw [← toFinset_ofTokens, ← toFinset_ofTokens]
    exact compares_toFinset (hnodup xs) (hnodup ys)
  · intro xs' ys' hxs hys
    rw [ratio_eq_jaccard (hnodup xs') (hnodup ys'), ratio_eq_jaccard (hnodup xs) (hnodup ys),
      toFinset_hashes_congr hash hxs, toFinset_hashes_congr hash hys]

theorem compares_ofTokens_lengths :
    ((∀ t, t ∈ ["is", "free"] ↔ t ∈ ["free", "is", "free"]) ∧ ∀ t, t ∈ ["it", "was"] ↔ t ∈ ["was", "it", "it"]) ∧
      ratio (ofTokens (["is", "free"].map String.length)) (ofTokens (["it", "was"].map String.length)) =
        ratio (ofTokens (["free", "is", "free"].map String.length))
          (ofTokens (["was", "it", "it"].map String.length)) := by
  have hfree : ∀ t, t ∈ ["is", "free"] ↔ t ∈ ["free", "is", "free"] := fun t => by simp; tauto
  have hwas : ∀ t, t ∈ ["it", "was"] ↔ t ∈ ["was", "it", "it"] := fun t => by simp; tauto
  exact ⟨⟨hfree, hwas⟩,
    (compares_ofTokens String.length ["free", "is", "free"] ["was", "it", "it"]).2 _ _ hfree hwas⟩

end Fingerprint

end ChatModeration
