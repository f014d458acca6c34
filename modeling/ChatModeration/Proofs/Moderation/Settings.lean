import ChatModeration.Proofs.Moderation.Counting

/-!
# Repeats under other settings

A lower threshold makes more messages similar, and a similar message ends the gap that is being counted.  So of two
counts along the same messages the one that finds more of them similar never falls behind: it has counted as much, and
its gap is no longer (`RepeatCount.Covers`).  The gap itself does not depend on how long a gap may be, so a greater
limit only lets more messages count.  Together (`countRepeats_settings`): the number of repeats never grows with the
threshold and never shrinks with the limit on gaps, and without a limit all similar messages are counted.
-/

namespace ChatModeration.Moderation

/-! ### More similar messages -/

/-- One count covers another one: it has counted as many repeats, and its gap is no longer. -/
structure RepeatCount.Covers (c d : RepeatCount) : Prop where
  repeats : d.repeats ≤ c.repeats
  gap : c.gap ≤ d.gap

namespace RepeatCount

variable {c d : RepeatCount} {minGap : Nat} {similar fewer : Bool}

/-- A count stays ahead when a message is taken into account that is similar for it if it is for the other one. -/
theorem Covers.observe (h : c.Covers d) (hfewer : fewer = true → similar = true) :
    (c.observe minGap similar).Covers (d.observe minGap fewer) := by
  obtain ⟨hrepeats, hgap⟩ := h
  cases fewer with
  | true =>
    -- similar for both: what counts after the longer gap counts after the shorter one
    rw [hfewer rfl]
    constructor
    · simp only [RepeatCount.observe, if_true]
      split <;> split <;> omega
    · exact Nat.le_refl 0
  | false =>
    cases similar with
    | true =>
      constructor
      · simp only [RepeatCount.observe, if_true, Bool.false_eq_true, if_false]
        split <;> omega
      · exact Nat.zero_le _
    | false => exact ⟨hrepeats, Nat.succ_le_succ hgap⟩

end RepeatCount

/-- Along the same messages a count that finds more of them similar stays ahead. -/
theorem covers_observeAll {α : Type} {similar fewer : α → Bool} (minGap : Nat) (messages : List α)
    (h : ∀ m ∈ messages, fewer m = true → similar m = true) :
    (observeAll minGap (messages.map similar)).Covers (observeAll minGap (messages.map fewer)) := by
  induction messages using List.reverseRecOn with
  | nil => exact ⟨Nat.le_refl _, Nat.le_refl _⟩
  | append_singleton messages m ih =>
    rw [List.map_append, List.map_append, List.map_singleton, List.map_singleton, observeAll_append_singleton,
      observeAll_append_singleton]
    have hbefore := ih fun n hn => h n (List.mem_append_left _ hn)
    exact hbefore.observe (h m (List.mem_append_right _ (List.mem_singleton_self m)))

/-! ### Longer gaps -/

/-- Where longer gaps are allowed no fewer messages count. -/
theorem countSimilar_mono {minGap minGap' : Nat} (hpos : 1 ≤ minGap) (hle : minGap ≤ minGap') (similar : List Bool) :
    countSimilar minGap similar ≤ countSimilar minGap' similar := by
  rw [countSimilar_eq_card, countSimilar_eq_card]
  refine Finset.card_le_card (Finset.monotone_filter_right _ ?_)
  rintro i - ⟨hsimilar, hnear⟩
  exact ⟨hsimilar, by omega⟩

/-! ### Repeats -/

section Repeats

variable {κ : Type} [DecidableEq κ] {s s' : Binary64} {current m : Fingerprint κ}

/-- What is similar enough for a threshold is so for a lower one. -/
theorem isSimilar_of_le (hle : s.le s' = true) (h : isSimilar s' current m = true) : isSimilar s current m = true :=
  Binary64.le_trans hle h

/--
The number of repeats never grows with the threshold.  It never shrinks with the limit on gaps, as long as there is one;
without a limit it is greatest, and all messages that are similar to the current one, itself included, are counted.
-/
theorem countRepeats_settings (current : Fingerprint κ) (history : List (Fingerprint κ)) :
    (∀ minGap s s', s.le s' = true →
      countRepeats s' minGap current history ≤ countRepeats s minGap current history) ∧
    (∀ s minGap minGap', 1 ≤ minGap → minGap ≤ minGap' →
      countRepeats s minGap current history ≤ countRepeats s minGap' current history) ∧
    ∀ s, (∀ minGap, countRepeats s minGap current history ≤ countRepeats s 0 current history) ∧
      countRepeats s 0 current history = (history ++ [current]).countP (isSimilar s current) := by
  have hall : ∀ s, countRepeats s 0 current history =
      ((history ++ [current]).map (isSimilar s current)).count true := fun s => countSimilar_zero _
  refine ⟨fun minGap s s' hle => ?_, fun s minGap minGap' hpos hle => ?_, fun s => ⟨fun minGap => ?_, ?_⟩⟩
  · exact (covers_observeAll minGap (history ++ [current]) fun m _ => isSimilar_of_le hle).repeats
  · exact countSimilar_mono hpos hle _
  · rw [hall]
    exact countSimilar_le minGap _
  · rw [hall, List.count_eq_countP, List.countP_map]
    refine List.countP_congr fun m _ => ?_
    simp

theorem countRepeats_settings_buyNow :
    let half : Binary64 := ⟨0x3FE0000000000000⟩
    let current := Fingerprint.ofTokens ["buy", "now"]
    let history := [Fingerprint.ofTokens ["buy"], Fingerprint.ofTokens ["hello"], Fingerprint.ofTokens ["buy", "now"]]
    (half.le .one = true ∧ 1 ≤ 1 ∧ 1 ≤ 2) ∧
      countRepeats .one 1 current history ≤ countRepeats half 1 current history ∧
      countRepeats half 1 current history ≤ countRepeats half 2 current history := by
  intro half current history
  have hle : half.le .one = true := by decide
  obtain ⟨hthreshold, hgap, -⟩ := countRepeats_settings current history
  exact ⟨⟨hle, by decide, by decide⟩, hthreshold 1 half .one hle, hgap half 1 2 (by decide) (by decide)⟩

end Repeats

end ChatModeration.Moderation
