import ChatModeration.Json.Token
import Mathlib.Data.List.TakeWhile

/-!
# How tokens are written

The ways in which JSON writes its tokens: a string with characters as they are or as escapes (`Written`), a number with
its sign, digits, fraction and exponent (`Numeral`), and signs and words, which are written in one way (`Mark`).  A text
in which such tokens follow each other, with any blanks between them (`Spelled`), is divided into just these tokens
(`tokensOf_of_spelled`).
-/

namespace ChatModeration.Json

open Text (hexDigit? hexValue?)

/-! ### Strings -/

/-- The text begins with the escape of the second half of a surrogate pair. -/
def BeginsTrailing (cs : List Char) : Prop :=
  ∃ a b c d rest n, cs = '\\' :: 'u' :: a :: b :: c :: d :: rest ∧ hexValue? [a, b, c, d] = some n ∧
    isTrailing n = true

/--
`Written cs s`: between its quotes the string `s` can be written as `cs`.  There is no string if an escaped surrogate
has no partner.
-/
inductive Written : List Char → Option (List Char) → Prop where
  | nil : Written [] (some [])
  | plain {c : Char} {cs : List Char} {s : Option (List Char)} (hquote : c ≠ '"') (hback : c ≠ '\\')
      (hc : 0x20 ≤ c.toNat) (h : Written cs s) : Written (c :: cs) (s.map (c :: ·))
  | short {c d : Char} {cs : List Char} {s : Option (List Char)} (hd : simpleEscape c = some d) (h : Written cs s) :
      Written ('\\' :: c :: cs) (s.map (d :: ·))
  | unit {a b c d : Char} {n : Nat} {cs : List Char} {s : Option (List Char)} (hn : hexValue? [a, b, c, d] = some n)
      (hlead : isLeading n = false) (htrail : isTrailing n = false) (h : Written cs s) :
      Written ('\\' :: 'u' :: a :: b :: c :: d :: cs) (s.map (Char.ofNat n :: ·))
  | pair {a b c d a' b' c' d' : Char} {n m : Nat} {cs : List Char} {s : Option (List Char)}
      (hn : hexValue? [a, b, c, d] = some n) (hlead : isLeading n = true) (hm : hexValue? [a', b', c', d'] = some m)
      (htrail : isTrailing m = true) (h : Written cs s) :
      Written ('\\' :: 'u' :: a :: b :: c :: d :: '\\' :: 'u' :: a' :: b' :: c' :: d' :: cs)
        (s.map (joinSurrogates n m :: ·))
  | unpaired {a b c d : Char} {n : Nat} {cs : List Char} {s : Option (List Char)}
      (hn : hexValue? [a, b, c, d] = some n)
      (halone : isTrailing n = true ∨ isLeading n = true ∧ ¬ BeginsTrailing cs) (h : Written cs s) :
      Written ('\\' :: 'u' :: a :: b :: c :: d :: cs) none

theorem hexDigit?_isSome {digits : List Char} {k n : Nat}
    (h : digits.foldlM (fun n c => (hexDigit? c).map (n * 16 + ·)) k = some n) :
    ∀ c ∈ digits, (hexDigit? c).isSome = true := by
  induction digits generalizing k with
  | nil => nofun
  | cons d digits ih =>
    rw [List.foldlM_cons] at h
    obtain ⟨value, hvalue, h⟩ := Option.bind_eq_some_iff.1 h
    obtain ⟨digit, hdigit, -⟩ := Option.map_eq_some_iff.1 hvalue
    exact List.forall_mem_cons.2 ⟨by rw [hdigit]; rfl, ih h⟩

theorem splitString_plain {c : Char} (hquote : c ≠ '"') (hback : c ≠ '\\') (cs : List Char) :
    splitString (c :: cs) = (c :: (splitString cs).1, (splitString cs).2) := by
  rw [splitString]
  · exact hquote
  · exact fun heq _ => hback heq
  · exact fun _ _ heq _ => hback heq

theorem splitString_escape (c : Char) (cs : List Char) :
    splitString ('\\' :: c :: cs) = ('\\' :: c :: (splitString cs).1, (splitString cs).2) := rfl

/-- Hexadecimal digits are no quotes and no backslashes. -/
theorem ne_of_hexValue? {digits : List Char} {n : Nat} (hn : hexValue? digits = some n) :
    ∀ x ∈ digits, x ≠ '"' ∧ x ≠ '\\' := by
  intro x hx
  have hsome := hexDigit?_isSome hn x hx
  constructor
  · rintro rfl
    exact absurd hsome (by decide)
  · rintro rfl
    exact absurd hsome (by decide)

theorem splitString_unit {a b c d : Char} {n : Nat} (hn : hexValue? [a, b, c, d] = some n) (cs : List Char) :
    splitString ('\\' :: 'u' :: a :: b :: c :: d :: cs) =
      ('\\' :: 'u' :: a :: b :: c :: d :: (splitString cs).1, (splitString cs).2) := by
  have hplain := ne_of_hexValue? hn
  have hsplit : ∀ x ∈ [a, b, c, d], ∀ cs, splitString (x :: cs) = (x :: (splitString cs).1, (splitString cs).2) :=
    fun x hx => splitString_plain (hplain x hx).1 (hplain x hx).2
  rw [splitString_escape, hsplit a (by simp), hsplit b (by simp), hsplit c (by simp), hsplit d (by simp)]

/-- A written string ends at the quote after it. -/
theorem splitString_of_written {cs : List Char} {s : Option (List Char)} (h : Written cs s) (rest : List Char) :
    splitString (cs ++ '"' :: rest) = (cs, some rest) := by
  induction h with
  | nil => rfl
  | plain hquote hback _ _ ih => rw [List.cons_append, splitString_plain hquote hback, ih]
  | short _ _ ih => rw [List.cons_append, List.cons_append, splitString_escape, ih]
  | unit hn _ _ _ ih => simp only [List.cons_append, splitString_unit hn, ih]
  | pair hn _ hm _ _ ih => simp only [List.cons_append, splitString_unit hn, splitString_unit hm, ih]
  | unpaired hn _ _ ih => simp only [List.cons_append, splitString_unit hn, ih]

/-- The string of some content, if no surrogate is unpaired. -/
def Content.value (r : Content) : Option (List Char) := if r.unpaired then none else some r.chars

theorem Content.value_cons (c : Char) (r : Content) : (r.cons c).value = r.value.map (c :: ·) := by
  unfold Content.value Content.cons
  cases r.unpaired <;> rfl

section Reading

variable {after : Nat} {cs : List Char}

theorem readContent_plain {c : Char} (hback : c ≠ '\\') (hc : 0x20 ≤ c.toNat) :
    readContent after (c :: cs) = (readContent after cs).cons c := by
  rw [readContent, if_neg (Nat.not_lt.2 hc)]
  all_goals simp_all

theorem readContent_short {c d : Char} (hd : simpleEscape c = some d) :
    readContent after ('\\' :: c :: cs) = (readContent after cs).cons d := by
  have hu : c ≠ 'u' := by
    rintro rfl
    cases hd
  rw [readContent, hd]
  all_goals simp_all

variable {a b c d : Char} {n : Nat} (hn : hexValue? [a, b, c, d] = some n)

include hn

theorem readContent_unit (hlead : isLeading n = false) (htrail : isTrailing n = false) :
    readContent after ('\\' :: 'u' :: a :: b :: c :: d :: cs) = (readContent after cs).cons (Char.ofNat n) := by
  rw [readContent, hn]
  simp [hlead, htrail]

theorem readContent_pair {a' b' c' d' : Char} {m : Nat} (hlead : isLeading n = true)
    (hm : hexValue? [a', b', c', d'] = some m) (htrail : isTrailing m = true) :
    readContent after ('\\' :: 'u' :: a :: b :: c :: d :: '\\' :: 'u' :: a' :: b' :: c' :: d' :: cs) =
      (readContent after cs).cons (joinSurrogates n m) := by
  have hfirst : isTrailing n = false := by
    simp only [isLeading, isTrailing, Bool.and_eq_true, Bool.and_eq_false_iff, decide_eq_true_eq,
      decide_eq_false_iff_not] at hlead ⊢
    omega
  rw [readContent, hn]
  simp [hlead, hfirst, hm, htrail]

theorem readContent_unpaired (hafter : after ≠ 0) (hwritten : ∃ s, Written cs s)
    (halone : isTrailing n = true ∨ isLeading n = true ∧ ¬ BeginsTrailing cs) :
    readContent after ('\\' :: 'u' :: a :: b :: c :: d :: cs) = { readContent after cs with unpaired := true } := by
  rw [readContent, hn]
  dsimp only
  split
  · rfl
  · next htrail =>
    obtain ⟨hlead, hnot⟩ := halone.resolve_left htrail
    rw [if_pos hlead]
    -- what follows is no partner, and it is no broken escape since it is written
    split
    · rfl
    · rfl
    · next e f g h ds =>
      split
      · next m hm =>
        rw [if_neg fun htrail => hnot ⟨e, f, g, h, ds, m, rfl, hm, htrail⟩]
      · next hnone =>
        obtain ⟨s, hs⟩ := hwritten
        cases hs with
        | plain _ hback => exact absurd rfl hback
        | short hd => cases hd
        | unit hm | pair hm | unpaired hm => exact absurd (hnone.symm.trans hm) nofun
    · next ds hshort =>
      obtain ⟨s, hs⟩ := hwritten
      cases hs with
      | plain _ hback => exact absurd rfl hback
      | short hd => cases hd
      | unit | pair | unpaired => exact absurd rfl (hshort _ _ _ _ _)
    · rfl

end Reading

/-- The content of a written string is read back. -/
theorem readContent_of_written {after : Nat} (hafter : after ≠ 0) {cs : List Char} {s : Option (List Char)}
    (h : Written cs s) : (readContent after cs).fault = none ∧ (readContent after cs).value = s := by
  induction h with
  | nil => exact ⟨rfl, rfl⟩
  | plain hquote hback hc _ ih =>
    rw [readContent_plain hback hc, Content.value_cons]
    exact ⟨ih.1, congrArg _ ih.2⟩
  | short hd _ ih =>
    rw [readContent_short hd, Content.value_cons]
    exact ⟨ih.1, congrArg _ ih.2⟩
  | unit hn hlead htrail _ ih =>
    rw [readContent_unit hn hlead htrail, Content.value_cons]
    exact ⟨ih.1, congrArg _ ih.2⟩
  | pair hn hlead hm htrail _ ih =>
    rw [readContent_pair hn hlead hm htrail, Content.value_cons]
    exact ⟨ih.1, congrArg _ ih.2⟩
  | unpaired hn halone h ih =>
    rw [readContent_unpaired hn hafter ⟨_, h⟩ halone]
    exact ⟨ih.1, rfl⟩

/-- A written string is a token of its own. -/
theorem stringToken_of_written {cs : List Char} {s : Option (List Char)} (h : Written cs s) (rest : List Char) :
    stringToken (cs ++ '"' :: rest) = (.string (s.map String.ofList), rest) := by
  obtain ⟨hfault, hvalue⟩ := readContent_of_written (Nat.succ_ne_zero (byteCount rest)) h
  rw [stringToken, splitString_of_written h]
  rw [← hvalue, Content.value]
  dsimp only
  rw [hfault]
  dsimp only
  split <;> rfl

/-! ### Numbers -/

/-- One digit or more. -/
def IsDigits (digits : List Char) : Prop := digits ≠ [] ∧ ∀ c ∈ digits, c.isDigit = true

/-- The digits before the point, which begin with a zero only if there are no others. -/
def IsWhole (digits : List Char) : Prop := IsDigits digits ∧ (digits.head? = some '0' → digits = ['0'])

/-- The ways to write a fraction, or none. -/
inductive FractionText : List Char → Option (List Char) → Prop where
  | none : FractionText [] none
  | digits {ds : List Char} (h : IsDigits ds) : FractionText ('.' :: ds) (some ds)

/-- The ways to write an exponent, or none. -/
inductive ExponentText : List Char → Option Number.Exponent → Prop where
  | none : ExponentText [] none
  | unsigned {mark : Char} {ds : List Char} (hmark : mark = 'e' ∨ mark = 'E') (h : IsDigits ds) :
      ExponentText (mark :: ds) (some ⟨false, ds⟩)
  | positive {mark : Char} {ds : List Char} (hmark : mark = 'e' ∨ mark = 'E') (h : IsDigits ds) :
      ExponentText (mark :: '+' :: ds) (some ⟨false, ds⟩)
  | negative {mark : Char} {ds : List Char} (hmark : mark = 'e' ∨ mark = 'E') (h : IsDigits ds) :
      ExponentText (mark :: '-' :: ds) (some ⟨true, ds⟩)

/-- The ways to write a number; there is no number if it is out of range. -/
inductive Numeral : List Char → Option Number → Prop where
  | positive {whole fractionText exponentText : List Char} {fraction : Option (List Char)}
      {exponent : Option Number.Exponent} (hw : IsWhole whole) (hf : FractionText fractionText fraction)
      (he : ExponentText exponentText exponent) :
      Numeral (whole ++ (fractionText ++ exponentText)) (Number.ofParts false whole fraction exponent)
  | negative {whole fractionText exponentText : List Char} {fraction : Option (List Char)}
      {exponent : Option Number.Exponent} (hw : IsWhole whole) (hf : FractionText fractionText fraction)
      (he : ExponentText exponentText exponent) :
      Numeral ('-' :: (whole ++ (fractionText ++ exponentText))) (Number.ofParts true whole fraction exponent)

/-- What follows a number does not go on with it. -/
def EndsNumber (rest : List Char) : Prop :=
  ∀ c ∈ rest.head?, c.isDigit = false ∧ c ≠ '.' ∧ c ≠ 'e' ∧ c ≠ 'E'

theorem takeWhile_dropWhile_digits {digits rest : List Char} (h : ∀ c ∈ digits, c.isDigit = true)
    (hrest : ∀ c ∈ rest.head?, c.isDigit = false) :
    (digits ++ rest).takeWhile Char.isDigit = digits ∧ (digits ++ rest).dropWhile Char.isDigit = rest := by
  rw [List.takeWhile_append_of_pos h, List.dropWhile_append_of_pos h]
  cases rest with
  | nil => simp
  | cons c rest =>
    have hc : c.isDigit = false := hrest c rfl
    rw [List.takeWhile_cons_of_neg (by simp [hc]), List.dropWhile_cons_of_neg (by simp [hc]), List.append_nil]
    exact ⟨rfl, rfl⟩

variable {fractionText exponentText rest : List Char} {fraction : Option (List Char)}
  {exponent : Option Number.Exponent}

/-- An exponent begins with no digit. -/
theorem ExponentText.head (he : ExponentText exponentText exponent) (hrest : EndsNumber rest) :
    ∀ c ∈ (exponentText ++ rest).head?, c.isDigit = false ∧ c ≠ '.' := by
  cases he with
  | none => exact fun c hc => ⟨(hrest c hc).1, (hrest c hc).2.1⟩
  | unsigned hmark | positive hmark | negative hmark =>
    rintro c ⟨⟩
    rcases hmark with rfl | rfl <;> decide

/-- A fraction begins with no digit. -/
theorem FractionText.head (hf : FractionText fractionText fraction) (he : ExponentText exponentText exponent)
    (hrest : EndsNumber rest) : ∀ c ∈ (fractionText ++ exponentText ++ rest).head?, c.isDigit = false := by
  cases hf with
  | none => exact fun c hc => (he.head hrest c hc).1
  | digits =>
    rintro c ⟨⟩
    decide

theorem exponentToken_of_text (he : ExponentText exponentText exponent) (hrest : EndsNumber rest) (negative : Bool)
    (whole : List Char) (fraction : Option (List Char)) :
    exponentToken negative whole fraction (exponentText ++ rest) =
      (.number (Number.ofParts negative whole fraction exponent), rest) := by
  have hdigits : ∀ {mark : Char} {ds signed : List Char} {sign : Bool}, (mark = 'e' ∨ mark = 'E') → IsDigits ds →
      exponentSign (signed ++ rest) = (sign, ds ++ rest) →
      exponentToken negative whole fraction (mark :: signed ++ rest) =
        (.number (Number.ofParts negative whole fraction (some ⟨sign, ds⟩)), rest) := by
    intro mark ds signed sign hmark hds hsign
    obtain ⟨htake, hdrop⟩ := takeWhile_dropWhile_digits hds.2 fun c hc => (hrest c hc).1
    rw [List.cons_append, exponentToken, if_pos hmark, hsign]
    dsimp only
    rw [htake, hdrop]
    split
    · exact absurd rfl hds.1
    · rfl
  cases he with
  | none =>
    cases rest with
    | nil => rfl
    | cons c rest =>
      obtain ⟨-, -, he, hE⟩ := hrest c rfl
      rw [List.nil_append, exponentToken, if_neg (by simp [he, hE])]
  | unsigned hmark h =>
    refine hdigits hmark h ?_
    obtain ⟨d, ds, rfl⟩ := List.exists_cons_of_ne_nil h.1
    have hd : d.isDigit = true := h.2 d List.mem_cons_self
    have hne : d ≠ '-' ∧ d ≠ '+' := by
      constructor
      · rintro rfl
        exact absurd hd (by decide)
      · rintro rfl
        exact absurd hd (by decide)
    rw [List.cons_append, exponentSign]
    · exact fun _ heq => hne.1 (List.cons.inj heq).1
    · exact fun _ heq => hne.2 (List.cons.inj heq).1
  | positive hmark h => exact hdigits hmark h rfl
  | negative hmark h => exact hdigits hmark h rfl

theorem numberToken_of_text {whole : List Char} (hw : IsWhole whole) (hf : FractionText fractionText fraction)
    (he : ExponentText exponentText exponent) (hrest : EndsNumber rest) (negative : Bool) :
    numberToken negative whole (fractionText ++ exponentText ++ rest) =
      (.number (Number.ofParts negative whole fraction exponent), rest) := by
  obtain ⟨hwhole, hzero⟩ := hw
  have hne : ∀ c cs, whole ≠ '0' :: c :: cs := by
    rintro c cs rfl
    exact absurd (hzero rfl) (by simp)
  cases hf with
  | none =>
    have hpoint : ∀ cs, exponentText ++ rest ≠ '.' :: cs := by
      intro cs heq
      exact (he.head hrest '.' (by rw [heq]; rfl)).2 rfl
    rw [List.nil_append, numberToken]
    · exact exponentToken_of_text he hrest negative whole none
    · exact hwhole.1
    · exact hne
    · exact fun cs => hpoint cs
  | @digits ds h =>
    obtain ⟨htake, hdrop⟩ := takeWhile_dropWhile_digits h.2 fun c hc => (he.head hrest c hc).1
    rw [List.cons_append, List.cons_append, List.append_assoc, numberToken, htake, hdrop]
    · split
      · exact absurd rfl h.1
      · exact exponentToken_of_text he hrest negative whole (some ds)
    · exact hwhole.1
    · exact hne

/-! ### Tokens one after the other -/

/-- The tokens that are written in one way. -/
inductive Mark : List Char → Token → Prop where
  | openArray : Mark ['['] .openArray
  | closeArray : Mark [']'] .closeArray
  | openObject : Mark ['\x7b'] .openObject
  | closeObject : Mark ['\x7d'] .closeObject
  | comma : Mark [','] .comma
  | colon : Mark [':'] .colon
  | null : Mark ['n', 'u', 'l', 'l'] .null
  | true : Mark ['t', 'r', 'u', 'e'] (.bool true)
  | false : Mark ['f', 'a', 'l', 's', 'e'] (.bool false)

/-- `Spelled cs ts`: the text `cs` has the tokens `ts`, with any blanks before, between and after them. -/
inductive Spelled : List Char → List Token → Prop where
  | nil : Spelled [] []
  | blank {c : Char} {cs : List Char} {ts : List Token} (hc : isSpace c = true) (h : Spelled cs ts) :
      Spelled (c :: cs) ts
  | mark {cs rest : List Char} {t : Token} {ts : List Token} (ht : Mark cs t) (h : Spelled rest ts) :
      Spelled (cs ++ rest) (t :: ts)
  | string {cs rest : List Char} {s : Option (List Char)} {ts : List Token} (hs : Written cs s)
      (h : Spelled rest ts) : Spelled ('"' :: (cs ++ '"' :: rest)) (.string (s.map String.ofList) :: ts)
  | number {cs rest : List Char} {n : Option Number} {ts : List Token} (hn : Numeral cs n) (hend : EndsNumber rest)
      (h : Spelled rest ts) : Spelled (cs ++ rest) (.number n :: ts)

theorem tokensOf_blank {c : Char} (hc : isSpace c = true) (cs : List Char) : tokensOf (c :: cs) = tokensOf cs := by
  rw [tokensOf, if_pos hc]

theorem tokensOf_cons {c : Char} {cs rest : List Char} {t : Token} (hc : isSpace c = false)
    (h : firstToken c cs = (t, rest)) : tokensOf (c :: cs) = t :: tokensOf rest := by
  rw [tokensOf, if_neg (by rw [hc]; exact Bool.false_ne_true), h]

theorem tokensOf_mark {cs : List Char} {t : Token} (ht : Mark cs t) (rest : List Char) :
    tokensOf (cs ++ rest) = t :: tokensOf rest := by
  cases ht <;> exact tokensOf_cons (by decide) rfl

theorem firstToken_digit {c : Char} (hc : c.isDigit = true) (cs : List Char) :
    firstToken c cs = numberToken false (c :: cs.takeWhile Char.isDigit) (cs.dropWhile Char.isDigit) := by
  unfold firstToken
  split
  case h_12 => rw [if_pos hc]
  all_goals exact absurd hc (by decide)

theorem isSpace_digit {c : Char} (hc : c.isDigit = true) : isSpace c = false := by
  by_contra hspace
  rw [Bool.not_eq_false, isSpace, Bool.or_eq_true, Bool.or_eq_true, Bool.or_eq_true] at hspace
  rcases hspace with ((h | h) | h) | h <;> exact absurd (beq_iff_eq.1 h ▸ hc) (by decide)

theorem tokensOf_string {cs : List Char} {s : Option (List Char)} (hs : Written cs s) (rest : List Char) :
    tokensOf ('"' :: (cs ++ '"' :: rest)) = .string (s.map String.ofList) :: tokensOf rest := by
  refine tokensOf_cons (by decide) ?_
  rw [firstToken]
  exact stringToken_of_written hs rest

theorem tokensOf_numeral {cs rest : List Char} {n : Option Number} (hn : Numeral cs n) (hend : EndsNumber rest) :
    tokensOf (cs ++ rest) = .number n :: tokensOf rest := by
  cases hn with
  | @positive whole fractionText exponentText fraction exponent hw hf he =>
    obtain ⟨c, digits, rfl⟩ := List.exists_cons_of_ne_nil hw.1.1
    obtain ⟨hc, hdigits⟩ := List.forall_mem_cons.1 hw.1.2
    obtain ⟨htake, hdrop⟩ := takeWhile_dropWhile_digits hdigits (hf.head he hend)
    rw [List.cons_append, List.cons_append, List.append_assoc]
    refine tokensOf_cons (isSpace_digit hc) ?_
    · rw [firstToken_digit hc, htake, hdrop]
      exact numberToken_of_text hw hf he hend false
  | @negative whole fractionText exponentText fraction exponent hw hf he =>
    obtain ⟨htake, hdrop⟩ := takeWhile_dropWhile_digits hw.1.2 (hf.head he hend)
    rw [List.cons_append, List.append_assoc]
    refine tokensOf_cons (by decide) ?_
    rw [firstToken, htake, hdrop]
    exact numberToken_of_text hw hf he hend true

/-- A text is divided into the tokens that it is spelled with. -/
theorem tokensOf_of_spelled {cs : List Char} {ts : List Token} (h : Spelled cs ts) : tokensOf cs = ts := by
  induction h with
  | nil => rw [tokensOf]
  | blank hc _ ih => rw [tokensOf_blank hc, ih]
  | mark ht _ ih => rw [tokensOf_mark ht, ih]
  | string hs _ ih => rw [tokensOf_string hs, ih]
  | number hn hend _ ih => rw [tokensOf_numeral hn hend, ih]

end ChatModeration.Json
