import ChatModeration.Proofs.Text.Words

/-!
# Normalization word by word

Before a character that is no mark and does not compose with what precedes it (`Text.StartsAfresh`) the compatibility
form of a text falls into two (`compatibilityForm_append`).  A blank or a dropped character is a barrier
(`Text.IsBarrier`): it does not compose with what follows it either, so the compatibility form is that of its parts
before and after it (`compatibilityForm_barrier`).  Hence the normalized words of a text are those of its words, one
after the other (`normalizedWords_eq_flatMap`).  In plain text, whose characters decompose into characters before the
first mark, nothing composes (`compatibilityForm_plain`).
-/

namespace ChatModeration.Text

/-! ### Barriers -/

/-- A character that is no mark and does not compose with what precedes it. -/
structure StartsAfresh (c : Char) : Prop where
  starter : combiningClass c = 0
  second : ∀ d, composePair d c = none

/-- A character that is no mark and takes part in no composition. -/
structure IsBarrier (c : Char) : Prop where
  starter : combiningClass c = 0
  first : ∀ d, composePair c d = none
  second : ∀ d, composePair d c = none

theorem IsBarrier.startsAfresh {c : Char} (h : IsBarrier c) : StartsAfresh c := ⟨h.starter, h.second⟩

/-- The rows of the pairs that compose. -/
def pairRows : List Nat := asciiPairs ++ latinPairs ++ greekPairs ++ furtherPairs

theorem exists_row_of_find? {code : Nat} {r : CodeRange Nat} (h : pairTable.find? code = some r) :
    ∃ row ∈ pairRows, code = row / 0x1000000 := by
  obtain ⟨hmem, hfirst, hlast⟩ := CodeTable.mem_of_find?_eq_some h
  obtain ⟨row, hrow, rfl⟩ := List.mem_map.1 (List.mem_toArray.1 hmem)
  exact ⟨row, hrow, Nat.le_antisymm hlast hfirst⟩

/-- The code points of the blanks and of the characters that are dropped. -/
def barrierCodes : List Nat := blankCodes ++ strippedCharacters.map Char.toNat

/-- No blank or dropped character is part of a pair that composes. -/
theorem not_mem_of_mem_pairRows {row : Nat} (h : row ∈ pairRows) :
    row / 0x1000000 / 0x1000000 ∉ barrierCodes ∧ row / 0x1000000 % 0x1000000 ∉ barrierCodes := by
  have hall : pairRows.all (fun row => barrierCodes.all fun n =>
      !Nat.beq (row / 0x1000000 / 0x1000000) n && !Nat.beq (row / 0x1000000 % 0x1000000) n) = true := by
    decide +kernel
  have hrow := List.all_eq_true.1 (List.all_eq_true.1 hall row h)
  constructor
  · intro hmem
    have hne := hrow _ hmem
    simp at hne
  · intro hmem
    have hne := hrow _ hmem
    simp at hne

theorem toNat_lt (c : Char) : c.toNat < 0x1000000 := by
  change c.val.toNat < 0x1000000
  rcases c.valid with h | ⟨-, h⟩
  · exact Nat.lt_trans h (by decide)
  · exact Nat.lt_trans h (by decide)

theorem isBarrier_of_mem_barrierCodes {c : Char} (hc : c.toNat ∈ barrierCodes) : IsBarrier c := by
  have hbounds : ∀ n ∈ barrierCodes, n < leadBase ∨ trailBase + trailCount ≤ n ∧ n < syllableBase ∨
      syllableBase + syllableCount ≤ n := by decide +kernel
  have hcbounds := hbounds c.toNat hc
  simp only [leadBase, leadCount, trailBase, trailCount, vowelCount, syllableBase, syllableCount] at hcbounds
  have hlt := toNat_lt c
  refine ⟨?_, fun d => ?_, fun d => ?_⟩
  · have hclass : ∀ n ∈ barrierCodes, combiningClass (Char.ofNat n) = 0 := by decide +kernel
    simpa using hclass c.toNat hc
  · have hnone : pairTable.find? (c.toNat * 0x1000000 + d.toNat) = none := by
      by_contra hne
      obtain ⟨r, hr⟩ := Option.ne_none_iff_exists'.1 hne
      obtain ⟨row, hrow, heq⟩ := exists_row_of_find? hr
      have hd := toNat_lt d
      have hfirst : row / 0x1000000 / 0x1000000 = c.toNat := by omega
      exact (not_mem_of_mem_pairRows hrow).1 (hfirst ▸ hc)
    simp only [composePair, hnone, leadBase, leadCount, syllableBase, syllableCount, vowelCount, trailCount]
    split
    · rfl
    · rw [if_neg (by omega), if_neg (by omega)]
      rfl
  · have hnone : pairTable.find? (d.toNat * 0x1000000 + c.toNat) = none := by
      by_contra hne
      obtain ⟨r, hr⟩ := Option.ne_none_iff_exists'.1 hne
      obtain ⟨row, hrow, heq⟩ := exists_row_of_find? hr
      have hsecond : row / 0x1000000 % 0x1000000 = c.toNat := by omega
      exact (not_mem_of_mem_pairRows hrow).2 (hsecond ▸ hc)
    simp only [composePair, hnone, leadBase, leadCount, syllableBase, syllableCount, vowelBase, vowelCount, trailBase,
      trailCount]
    split
    · rfl
    · rw [if_neg (by omega), if_neg (by omega)]
      rfl

theorem isBarrier_of_isBlank {c : Char} (h : isBlank c = true) : IsBarrier c :=
  isBarrier_of_mem_barrierCodes (List.mem_append_left _ (isBlank_iff.1 h))

theorem isBarrier_of_mem_strippedCharacters {c : Char} (h : c ∈ strippedCharacters) : IsBarrier c :=
  isBarrier_of_mem_barrierCodes (List.mem_append_right _ (List.mem_map_of_mem h))

/-! ### Compatibility form -/

/-- What a character composes into with the starter before it, across the marks in between. -/
def joined (starter : Char) (marks : List Char) (c : Char) : Option Char :=
  let blocked := match marks with
    | [] => false
    | m :: _ => combiningClass c ≤ combiningClass m
  if blocked then none else composePair starter c

theorem composeFrom_cons (starter : Char) (marks : List Char) (c : Char) (cs : List Char) :
    composeFrom starter marks (c :: cs) =
      match joined starter marks c with
      | some d => composeFrom d marks cs
      | none =>
        if combiningClass c = 0 then (starter :: marks.reverse) ++ composeFrom c [] cs
        else composeFrom starter (c :: marks) cs := rfl

theorem joined_eq_none {starter c : Char} (h : composePair starter c = none) (marks : List Char) :
    joined starter marks c = none := by
  unfold joined
  dsimp only
  rw [h, ite_self]

section Fresh

variable {y : Char} (hy : StartsAfresh y)

include hy

theorem orderInsert_append (c : Char) (xs ys : List Char) :
    orderInsert c (xs ++ y :: ys) = orderInsert c xs ++ y :: ys := by
  induction xs with
  | nil =>
    have hfirst : orderInsert c (y :: ys) = c :: y :: ys := if_neg fun h => absurd h.1 (by rw [hy.starter]; omega)
    exact hfirst
  | cons x xs ih =>
    rw [List.cons_append, orderInsert, orderInsert]
    split
    · rw [ih, List.cons_append]
    · rfl

/-- Marks are put into order on each side of a character that is no mark. -/
theorem order_append (xs ys : List Char) : order (xs ++ y :: ys) = order xs ++ y :: order ys := by
  induction xs with
  | nil =>
    rw [List.nil_append, order, order, List.nil_append]
    cases order ys with
    | nil => rfl
    | cons d ds => rw [orderInsert, if_neg fun h => absurd h.2 (by rw [hy.starter]; omega)]
  | cons x xs ih => rw [List.cons_append, order, order, ih, orderInsert_append hy]

theorem compose_cons (ys : List Char) : compose (y :: ys) = composeFrom y [] ys := if_pos hy.starter

theorem composeFrom_append (starter : Char) (marks xs ys : List Char) :
    composeFrom starter marks (xs ++ y :: ys) = composeFrom starter marks xs ++ compose (y :: ys) := by
  induction xs generalizing starter marks with
  | nil =>
    rw [List.nil_append, composeFrom_cons, joined_eq_none (hy.second starter)]
    dsimp only
    rw [if_pos hy.starter, compose_cons hy]
    rfl
  | cons x xs ih =>
    rw [List.cons_append, composeFrom_cons, composeFrom_cons]
    split
    · exact ih ..
    · split
      · rw [ih, List.append_assoc]
      · exact ih ..

/-- Characters are composed on each side of a place where a text starts afresh. -/
theorem compose_append (xs ys : List Char) : compose (xs ++ y :: ys) = compose xs ++ compose (y :: ys) := by
  induction xs with
  | nil => rfl
  | cons x xs ih =>
    rw [List.cons_append, compose, compose]
    split
    · exact composeFrom_append hy ..
    · rw [ih, List.cons_append]

end Fresh

/-- What follows a barrier is composed without it. -/
theorem compose_barrier {b : Char} (hb : IsBarrier b) (cs : List Char) : compose (b :: cs) = b :: compose cs := by
  have hfrom : ∀ marks, composeFrom b marks cs = b :: marks.reverse ++ compose cs := by
    induction cs with
    | nil => exact fun marks => (List.append_nil _).symm
    | cons c cs ih =>
      intro marks
      rw [composeFrom_cons, joined_eq_none (hb.first c), compose]
      dsimp only
      split
      · rfl
      · rw [ih, List.reverse_cons]
        simp
  rw [compose_cons hb.startsAfresh, hfrom]
  rfl

/-- The first character of the decomposition of a text starts afresh. -/
def BeginsAfresh (cs : List Char) : Prop := ∀ c ∈ (cs.flatMap decompose).head?, StartsAfresh c

/-- The compatibility form falls into two where the text starts afresh. -/
theorem compatibilityForm_append {ys : List Char} (h : BeginsAfresh ys) (xs : List Char) :
    compatibilityForm (xs ++ ys) = compatibilityForm xs ++ compatibilityForm ys := by
  unfold compatibilityForm
  rw [List.flatMap_append]
  unfold BeginsAfresh at h
  cases hys : ys.flatMap decompose with
  | nil =>
    rw [List.append_nil]
    exact (List.append_nil _).symm
  | cons y ds =>
    rw [hys] at h
    have hy : StartsAfresh y := h y rfl
    have horder : order (y :: ds) = y :: order ds := order_append hy [] ds
    rw [order_append hy, compose_append hy, horder]

/-- The compatibility form of a text with a barrier is that of what stands before it and after it. -/
theorem compatibilityForm_barrier {c d : Char} (hd : decompose c = [d]) (hb : IsBarrier d) (xs ys : List Char) :
    compatibilityForm (xs ++ c :: ys) = compatibilityForm xs ++ d :: compatibilityForm ys := by
  have hflat : (c :: ys).flatMap decompose = d :: ys.flatMap decompose := by rw [List.flatMap_cons, hd]; rfl
  have hfresh : BeginsAfresh (c :: ys) := by
    rw [BeginsAfresh, hflat]
    rintro e ⟨⟩
    exact hb.startsAfresh
  have horder : order (d :: ys.flatMap decompose) = d :: order (ys.flatMap decompose) :=
    order_append hb.startsAfresh [] _
  rw [compatibilityForm_append hfresh]
  unfold compatibilityForm
  rw [hflat, horder, compose_barrier hb]

/-- A blank decomposes into a blank. -/
theorem exists_decompose_blank {c : Char} (h : isBlank c = true) : ∃ d, decompose c = [d] ∧ isBlank d = true := by
  have hcodes : ∀ n ∈ blankCodes, (decompose (Char.ofNat n)).length = 1 ∧
      (decompose (Char.ofNat n)).all isBlank = true := by decide +kernel
  obtain ⟨hlength, hblank⟩ := hcodes c.toNat (isBlank_iff.1 h)
  rw [Char.ofNat_toNat] at hlength hblank
  obtain ⟨d, hd⟩ := List.length_eq_one_iff.1 hlength
  rw [hd] at hblank
  exact ⟨d, hd, by simpa using hblank⟩

/-- A dropped character is its own decomposition. -/
theorem decompose_of_mem_strippedCharacters {c : Char} (h : c ∈ strippedCharacters) : decompose c = [c] := by
  have hall : strippedCharacters.all (fun c => decompose c = [c]) = true := by decide +kernel
  exact of_decide_eq_true (List.all_eq_true.1 hall c h)

/-- The compatibility form of a text with a blank is that of what stands before it and after it. -/
theorem compatibilityForm_blank {c : Char} (h : isBlank c = true) (xs ys : List Char) :
    ∃ d, isBlank d = true ∧
      compatibilityForm (xs ++ c :: ys) = compatibilityForm xs ++ d :: compatibilityForm ys := by
  obtain ⟨d, hd, hblank⟩ := exists_decompose_blank h
  exact ⟨d, hblank, compatibilityForm_barrier hd (isBarrier_of_isBlank hblank) xs ys⟩

/-! ### Normalized words -/

/-- A blank is folded to itself and is not dropped. -/
theorem folded_blank {c : Char} (h : isBlank c = true) : lowerChar c = [c] ∧ c ∉ strippedCharacters := by
  have hcodes : ∀ n ∈ blankCodes, lowerChar (Char.ofNat n) = [Char.ofNat n] ∧
      Char.ofNat n ∉ strippedCharacters := by decide +kernel
  simpa using hcodes c.toNat (isBlank_iff.1 h)

/-- A blank divides the normalized words before it from those after it. -/
theorem normalizedWords_blank {c : Char} (h : isBlank c = true) (xs ys : List Char) :
    normalizedWords (xs ++ c :: ys) = normalizedWords xs ++ normalizedWords ys := by
  obtain ⟨d, hd, hform⟩ := compatibilityForm_blank h xs ys
  obtain ⟨hlower, hkept⟩ := folded_blank hd
  have hfolded : foldedForm (xs ++ c :: ys) = foldedForm xs ++ d :: foldedForm ys := by
    rw [foldedForm, hform, List.flatMap_append, List.flatMap_cons, hlower, List.filter_append, List.singleton_append,
      List.filter_cons_of_pos (by simpa using hkept)]
    rfl
  have hword : isAlphanumeric d = false := by
    by_contra hne
    rw [isBlank_of_isAlphanumeric (by simpa using hne)] at hd
    contradiction
  rw [normalizedWords, hfolded, runs_append_cons hword]
  rfl

/-- What a blank divides is divided into the words of a text. -/
theorem eq_flatMap_runs {α : Type} {f : List Char → List α} {p : Char → Bool} (hnil : f [] = [])
    (hcons : ∀ c, p c = false → ∀ xs ys, f (xs ++ c :: ys) = f xs ++ f ys) (cs : List Char) :
    f cs = (runs p cs).flatMap f := by
  -- the run that is being read is not yet divided from what follows it
  have hfrom : ∀ run, f (run.reverse ++ cs) = (runsFrom p run cs).flatMap f := by
    induction cs with
    | nil =>
      intro run
      cases run with
      | nil => exact hnil
      | cons c run => simp [runsFrom]
    | cons c cs ih =>
      intro run
      rw [runsFrom]
      split
      · rw [← ih, List.reverse_cons, List.append_assoc, List.singleton_append]
      · next hc =>
        rw [hcons c (by simpa using hc), show f cs = f (List.reverse [] ++ cs) from rfl, ih]
        split
        · next hrun => rw [List.isEmpty_iff.1 hrun, List.reverse_nil, hnil, List.nil_append]
        · rw [List.flatMap_cons]
  exact hfrom []

/-- The normalized words of a text are those of its words. -/
theorem normalizedWords_eq_flatMap (cs : List Char) :
    normalizedWords cs = (runs (fun c => !isBlank c) cs).flatMap normalizedWords :=
  eq_flatMap_runs rfl (fun c hc => normalizedWords_blank (by simpa using hc)) cs

/-! ### Plain text -/

theorem order_of_starters {cs : List Char} (h : ∀ c ∈ cs, combiningClass c = 0) : order cs = cs := by
  induction cs with
  | nil => rfl
  | cons c cs ih =>
    obtain ⟨hc, hcs⟩ := List.forall_mem_cons.1 h
    rw [order, ih hcs]
    cases cs with
    | nil => rfl
    | cons d cs => rw [orderInsert, if_neg fun hd => absurd hd.2 (by rw [hc]; omega)]

theorem composeFrom_plain {starter : Char} {cs : List Char} (h : ∀ c ∈ cs, c.toNat < 0x300) :
    composeFrom starter [] cs = starter :: cs := by
  induction cs generalizing starter with
  | nil => rfl
  | cons c cs ih =>
    obtain ⟨hc, hcs⟩ := List.forall_mem_cons.1 h
    have hpair : composePair starter c = none := by rw [composePair]; exact if_pos hc
    have hclass : combiningClass c = 0 := by rw [combiningClass, if_pos hc]
    rw [composeFrom_cons, joined_eq_none hpair]
    dsimp only
    rw [if_pos hclass, ih hcs]
    rfl

/-- Characters before the first mark are neither moved nor composed. -/
theorem compatibilityForm_plain {cs : List Char} (h : ∀ c ∈ cs.flatMap decompose, c.toNat < 0x300) :
    compatibilityForm cs = cs.flatMap decompose := by
  have hclass : ∀ c ∈ cs.flatMap decompose, combiningClass c = 0 := fun c hc => by
    rw [combiningClass, if_pos (h c hc)]
  rw [compatibilityForm, order_of_starters hclass]
  cases hcs : cs.flatMap decompose with
  | nil => rfl
  | cons c ds =>
    rw [hcs] at h hclass
    rw [compose, if_pos (hclass c List.mem_cons_self), composeFrom_plain fun d hd => h d (List.mem_cons_of_mem c hd)]

end ChatModeration.Text
