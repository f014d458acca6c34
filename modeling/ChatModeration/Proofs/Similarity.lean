import ChatModeration.Moderation.Repeats
import Mathlib.Data.List.Nodup

/-!
# Similarity

A quotient of natural numbers that is at most one is rounded to a number that is at most one (`ofRatio_le_one`).  So no
fingerprint is more similar to another one than to itself (`similarity_le_self`), and fingerprints with the same tokens
are as similar as can be (`similarity_eq_one`).
-/

namespace ChatModeration

/-! ### Quotients -/

namespace Binary64

theorem toNat_ofMagnitude {m : Nat} (h : m < signUnit) : (ofMagnitude false m).bits.toNat = m := by
  have hlt : m < UInt64.size := Nat.lt_trans h (by decide)
  exact UInt64.toNat_ofNat_of_lt hlt

theorem magnitude_ofMagnitude {m : Nat} (h : m < signUnit) : (ofMagnitude false m).magnitude = m := by
  rw [magnitude, toNat_ofMagnitude h, Nat.mod_eq_of_lt h]

theorem rank_ofMagnitude {m : Nat} (h : m < signUnit) : (ofMagnitude false m).rank = m := by
  have hpos : (ofMagnitude false m).isNegative = false := by
    rw [isNegative, toNat_ofMagnitude h]
    exact decide_eq_false (Nat.not_le.2 h)
  rw [rank, hpos, magnitude_ofMagnitude h]
  rfl

theorem ofMagnitude_le {m n : Nat} (h : m ≤ n) (hn : n ≤ infinityBits) :
    (ofMagnitude false m).le (ofMagnitude false n) = true := by
  have hsign : infinityBits < signUnit := by decide
  have hm' : m < signUnit := by omega
  have hn' : n < signUnit := by omega
  have hnan : ∀ {k : Nat}, k ≤ n → (ofMagnitude false k).isNaN = false := by
    intro k hk
    rw [isNaN, magnitude_ofMagnitude (by omega)]
    exact decide_eq_false (by omega)
  rw [le, hnan h, hnan (Nat.le_refl n), rank_ofMagnitude hm', rank_ofMagnitude hn']
  simpa using h

theorem roundDiv_le (num den : Nat) : roundDiv num den ≤ num / den + 1 := by
  unfold roundDiv
  dsimp only
  split <;> omega

theorem roundDiv_mul {q den : Nat} (h : 0 < den) : roundDiv (q * den) den = q := by
  unfold roundDiv
  dsimp only
  rw [Nat.mul_mod_left, Nat.mul_div_cancel q h, if_pos (.inl (by omega))]

theorem commonDenominator_pos : 0 < commonDenominator := by decide +kernel

theorem twoPow_pos (k : Nat) : 0 < Nat.pow 2 k := Nat.pow_pos (by decide)

theorem ofRatio_self {n : Nat} (h : 0 < n) : ofRatio false n n = one := by
  have hscale : (n * commonDenominator / n).log2 - 52 = 1022 := by
    rw [Nat.mul_div_cancel_left _ h]
    decide +kernel
  have hround : ∀ u, 0 < u → commonDenominator = 2 ^ 52 * u → roundDiv (n * commonDenominator) (n * u) = 2 ^ 52 := by
    intro u hu hpow
    rw [hpow, Nat.mul_left_comm]
    exact roundDiv_mul (Nat.mul_pos h hu)
  rw [ofRatio, hscale, hround _ (twoPow_pos 1022) (by decide +kernel)]
  rfl

theorem ofRatio_zero (den : Nat) (h : 0 < den) : ofRatio false 0 den = zero := by
  have hround : roundDiv 0 (den * Nat.pow 2 0) = 0 := by
    have hmul : roundDiv (0 * (den * Nat.pow 2 0)) (den * Nat.pow 2 0) = 0 := roundDiv_mul (by simpa using h)
    rwa [Nat.zero_mul] at hmul
  rw [ofRatio, Nat.zero_mul, Nat.zero_div, show Nat.log2 0 - 52 = 0 from rfl, hround]
  rfl

/-- A quotient that is at most one is rounded to a number that is at most one. -/
theorem ofRatio_le_one {num den : Nat} (hd : 0 < den) (h : num ≤ den) : (ofRatio false num den).le one = true := by
  have hone : one = ofMagnitude false (1023 * exponentUnit) := rfl
  rcases Nat.lt_or_eq_of_le h with hlt | rfl
  · rw [hone, ofRatio]
    generalize hscale : (num * commonDenominator / den).log2 - 52 = scale
    have hquot : num * commonDenominator / den < commonDenominator := by
      rw [Nat.div_lt_iff_lt_mul hd, Nat.mul_comm]
      exact Nat.mul_lt_mul_of_pos_left hlt commonDenominator_pos
    have hlog : num * commonDenominator / den < 2 ^ ((num * commonDenominator / den).log2 + 1) := Nat.lt_log2_self
    -- below one the exponent is smaller, and the significand has 53 bits at most
    have hsmall : scale ≤ 1021 := by
      have : (num * commonDenominator / den).log2 ≤ 1073 := by
        rcases Nat.eq_zero_or_pos (num * commonDenominator / den) with h0 | hpos
        · rw [h0]
          decide
        · rw [← Nat.lt_succ_iff, Nat.log2_lt (Nat.ne_of_gt hpos)]
          exact Nat.lt_of_lt_of_eq hquot (by decide +kernel)
      omega
    have hsig : num * commonDenominator / (den * Nat.pow 2 scale) < 2 ^ 53 := by
      rw [← Nat.div_div_eq_div_mul, Nat.div_lt_iff_lt_mul (twoPow_pos scale)]
      refine Nat.lt_of_lt_of_le hlog ?_
      show _ ≤ 2 ^ 53 * 2 ^ scale
      rw [← Nat.pow_add]
      exact Nat.pow_le_pow_right (by decide) (by omega)
    have hround := roundDiv_le (num * commonDenominator) (den * Nat.pow 2 scale)
    refine ofMagnitude_le (Nat.le_trans (Nat.min_le_right _ _) ?_) (by decide)
    have hmul : scale * exponentUnit ≤ 1021 * exponentUnit := Nat.mul_le_mul_right _ hsmall
    have hunit : exponentUnit = 2 ^ 52 := rfl
    omega
  · rw [ofRatio_self hd]
    decide

end Binary64

/-! ### Fingerprints -/

namespace Fingerprint

variable {κ : Type} [DecidableEq κ]

theorem mem_ofTokens {tokens : List κ} {t : κ} : t ∈ (ofTokens tokens).tokens ↔ t ∈ tokens := by
  rw [ofTokens]
  induction tokens with
  | nil => rfl
  | cons first tokens ih => rw [List.foldr_cons, List.mem_insert_iff, List.mem_cons, ih]

theorem nodup_ofTokens (tokens : List κ) : (ofTokens tokens).tokens.Nodup := by
  rw [ofTokens]
  induction tokens with
  | nil => exact List.nodup_nil
  | cons first tokens ih => exact ih.insert

theorem overlap_le (f g : Fingerprint κ) : f.overlap g ≤ f.size ∧ f.overlap g ≤ g.size := by
  unfold overlap
  split
  · rename_i h
    have hf := List.length_filter_le g.contains f.tokens
    exact ⟨hf, Nat.le_trans hf h⟩
  · rename_i h
    have hg := List.length_filter_le f.contains g.tokens
    exact ⟨Nat.le_trans hg (Nat.le_of_not_le h), hg⟩

theorem similarity_le_one (f g : Fingerprint κ) : (f.similarity g).le .one = true := by
  unfold similarity
  split
  · decide
  · rename_i hne
    obtain ⟨hf, hg⟩ := f.overlap_le g
    refine Binary64.ofRatio_le_one (Nat.pos_of_ne_zero hne) ?_
    unfold unionSize
    omega

/-- Fingerprints with the same tokens, at least one, are as similar as can be. -/
theorem similarity_eq_one {f g : Fingerprint κ} (hf : f.tokens.Nodup) (hg : g.tokens.Nodup)
    (hsame : ∀ t, t ∈ f.tokens ↔ t ∈ g.tokens) (hne : f.tokens ≠ []) : f.similarity g = .one := by
  have hsize : f.size = g.size := ((List.perm_ext_iff_of_nodup hf hg).2 hsame).length_eq
  have hall : f.tokens.filter g.contains = f.tokens :=
    List.filter_eq_self.2 fun t ht => List.contains_iff_mem.2 ((hsame t).1 ht)
  have hoverlap : f.overlap g = f.size := by
    rw [overlap, if_pos (Nat.le_of_eq hsize), hall, size]
  have hpos : 0 < f.size := List.length_pos_of_ne_nil hne
  have hunion : f.unionSize g = f.size := by
    rw [unionSize, hoverlap]
    omega
  rw [similarity, hunion, if_neg (Nat.ne_of_gt hpos), hoverlap, Binary64.ofRatio_self hpos]

theorem overlap_self (f : Fingerprint κ) : f.overlap f = f.size := by
  have hall : f.tokens.filter f.contains = f.tokens :=
    List.filter_eq_self.2 fun t ht => List.contains_iff_mem.2 ht
  rw [overlap, if_pos (Nat.le_refl _), hall, size]

/-- No fingerprint is more similar to another one than to itself. -/
theorem similarity_le_self (f g : Fingerprint κ) : (f.similarity g).le (f.similarity f) = true := by
  have hself : f.unionSize f = f.size := by
    rw [unionSize, overlap_self]
    omega
  rcases Nat.eq_zero_or_pos f.size with h0 | hpos
  -- without tokens a fingerprint is similar to nothing, not even to itself
  · have hoverlap : f.overlap g = 0 := by
      have := (f.overlap_le g).1
      omega
    have hzero : f.similarity g = .zero := by
      rw [similarity, hoverlap]
      split
      · rfl
      · exact Binary64.ofRatio_zero _ (Nat.pos_of_ne_zero ‹_›)
    rw [hzero, similarity, hself, if_pos h0]
    decide
  · rw [show f.similarity f = .one by
      rw [similarity, hself, if_neg (Nat.ne_of_gt hpos), overlap_self, Binary64.ofRatio_self hpos]]
    exact similarity_le_one f g

end Fingerprint

namespace Moderation

theorem isSimilar_self {κ : Type} [DecidableEq κ] {threshold : Binary64} {f g : Fingerprint κ}
    (h : isSimilar threshold f g = true) : isSimilar threshold f f = true :=
  Binary64.le_trans h (f.similarity_le_self g)

end Moderation

end ChatModeration
