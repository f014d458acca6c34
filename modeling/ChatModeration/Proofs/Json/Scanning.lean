import ChatModeration.Proofs.Json.Lexeme

/-!
# Every unbroken token is written as JSON writes it

A text whose tokens are all unbroken is spelled with them (`spelled_of_tokensOf`).  So the texts that JSON can spell are
just those that are divided into unbroken tokens (`spelled_iff`).
-/

namespace ChatModeration.Json

open Text (hexValue?)

/-- Nothing is broken off. -/
def Token.IsWhole : Token → Prop
  | .brokenString _ | .broken _ => False
  | _ => True

instance : DecidablePred Token.IsWhole
  | .brokenString _ | .broken _ => isFalse id
  | .openArray | .closeArray | .openObject | .closeObject | .comma | .colon | .null | .bool _ | .number _ | .string _ =>
    isTrue trivial

/-! ### Strings -/

/-- Every quote is escaped, and every backslash escapes something. -/
inductive Balanced : List Char → Prop where
  | nil : Balanced []
  | plain {c : Char} {cs : List Char} (hquote : c ≠ '"') (hback : c ≠ '\\') (h : Balanced cs) : Balanced (c :: cs)
  | escape {c : Char} {cs : List Char} (h : Balanced cs) : Balanced ('\\' :: c :: cs)

namespace Balanced

variable {c : Char} {cs : List Char}

theorem of_plain (hback : c ≠ '\\') (h : Balanced (c :: cs)) : Balanced cs := by
  cases h with
  | plain _ _ h => exact h
  | escape => exact absurd rfl hback

theorem of_escape (h : Balanced ('\\' :: c :: cs)) : Balanced cs := by
  cases h with
  | plain _ hback => exact absurd rfl hback
  | escape h => exact h

theorem of_unit {a b c d : Char} {n : Nat} (hn : hexValue? [a, b, c, d] = some n)
    (h : Balanced ('\\' :: 'u' :: a :: b :: c :: d :: cs)) : Balanced cs := by
  have hback : ∀ x ∈ [a, b, c, d], x ≠ '\\' := fun x hx => (ne_of_hexValue? hn x hx).2
  exact ((((h.of_escape.of_plain (hback a (by simp))).of_plain (hback b (by simp))).of_plain
    (hback c (by simp))).of_plain (hback d (by simp)))

theorem not_backslash : ¬ Balanced ['\\'] := by
  rintro ⟨⟩
  contradiction

end Balanced

/-- What stands before the closing quote is balanced. -/
theorem balanced_of_splitString {cs s rest : List Char} (h : splitString cs = (s, some rest)) :
    Balanced s ∧ cs = s ++ '"' :: rest := by
  fun_induction splitString cs generalizing s with
  | case1 => cases h
  | case2 cs =>
    cases h
    exact ⟨.nil, rfl⟩
  | case3 => cases h
  | case4 c cs _ =>
    rename_i ih
    obtain ⟨rfl, hrest⟩ := Prod.mk.inj h
    obtain ⟨hbalanced, hcs⟩ := ih (Prod.ext rfl hrest)
    exact ⟨.escape hbalanced, congrArg (fun cs => '\\' :: c :: cs) hcs⟩
  | case5 c cs hquote hlast hescape _ =>
    rename_i ih
    obtain ⟨rfl, hrest⟩ := Prod.mk.inj h
    obtain ⟨hbalanced, hcs⟩ := ih (Prod.ext rfl hrest)
    refine ⟨.plain hquote (fun hback => ?_) hbalanced, congrArg (c :: ·) hcs⟩
    cases cs with
    | nil => exact hlast hback rfl
    | cons c' cs => exact hescape c' cs hback rfl

/-- Content without fault is written as JSON writes it. -/
theorem written_of_readContent {after : Nat} (hafter : after ≠ 0) {s : List Char} (hs : Balanced s)
    (h : (readContent after s).fault = none) : Written s (readContent after s).value := by
  -- along the reader; where it relies on the text ending with the content, `hafter` is contradicted
  fun_induction readContent after s with
  | case1 => exact .nil
  | case3 a b c d cs n hn lone htrail ih => exact .unpaired hn (.inl htrail) (ih (hs.of_unit hn) h)
  | case4 _ _ _ _ _ _ _ _ hzero => exact absurd hzero hafter
  | case5 a b c d n hn htrail hlead _ lone ih =>
    refine .unpaired hn (.inr ⟨hlead, ?_⟩) .nil
    rintro ⟨_, _, _, _, _, _, heq, -⟩
    cases heq
  | case6 _ _ _ _ _ _ _ _ hzero => exact absurd hzero hafter
  | case7 a b c d n hn => exact absurd (hs.of_unit hn) Balanced.not_backslash
  | case8 a b c d n hn htrail hlead a' b' c' d' cs m hm htrail' _ ih =>
    rw [Content.value_cons]
    exact .pair hn hlead hm htrail' (ih ((hs.of_unit hn).of_unit hm) h)
  | case9 a b c d n hn htrail hlead a' b' c' d' cs m hm htrail' lone ih =>
    refine .unpaired hn (.inr ⟨hlead, ?_⟩) (ih (hs.of_unit hn) h)
    rintro ⟨_, _, _, _, _, m', heq, hm', htrue⟩
    cases heq
    cases hm.symm.trans hm'
    exact htrail' htrue
  | case12 a b c d cs n hn lone htrail hlead _ _ hother _ ih =>
    refine .unpaired hn (.inr ⟨hlead, ?_⟩) (ih (hs.of_unit hn) h)
    rintro ⟨_, _, _, _, _, _, heq, -⟩
    exact hother _ _ _ _ _ heq
  | case13 a b c d cs n hn htrail hlead ih =>
    rw [Content.value_cons]
    exact .unit hn (Bool.eq_false_iff.2 hlead) (Bool.eq_false_iff.2 htrail) (ih (hs.of_unit hn) h)
  | case15 c cs _ _ d hd ih =>
    rw [Content.value_cons]
    exact .short hd (ih hs.of_escape h)
  | case17 => exact absurd hs Balanced.not_backslash
  | case19 c cs _ _ hescape _ hc ih =>
    rw [Content.value_cons]
    cases hs with
    | plain hquote hback hs => exact .plain hquote hback (Nat.le_of_not_lt hc) (ih hs h)
    | escape => exact absurd rfl (hescape _ _ rfl)
  | case2 | case10 | case11 | case14 | case16 | case18 => cases h

theorem written_of_stringToken {cs rest : List Char} {t : Token} (h : stringToken cs = (t, rest)) (ht : t.IsWhole) :
    ∃ s v, cs = s ++ '"' :: rest ∧ Written s v ∧ t = .string (v.map String.ofList) := by
  rw [stringToken] at h
  split at h
  · next s rest' hsplit =>
    obtain ⟨hbalanced, rfl⟩ := balanced_of_splitString hsplit
    dsimp only at h
    split at h
    · cases h
      exact ht.elim
    · next hfault =>
      cases h
      refine ⟨s, _, rfl, written_of_readContent (Nat.succ_ne_zero _) hbalanced hfault, ?_⟩
      rw [Content.value]
      split <;> rfl
  · cases h
    exact ht.elim

/-! ### Numbers -/

/-- The text goes on with no digit. -/
def NoDigit (rest : List Char) : Prop := ∀ c ∈ rest.head?, c.isDigit = false

theorem noDigit_nil : NoDigit [] := by simp [NoDigit]

theorem noDigit_dropWhile (cs : List Char) : NoDigit (cs.dropWhile Char.isDigit) := by
  have hhead := List.head?_dropWhile_not Char.isDigit cs
  intro c hc
  rwa [Option.mem_def.1 hc] at hhead

/-- The digits at the beginning of a text. -/
theorem isDigits_takeWhile {cs : List Char} (h : cs.takeWhile Char.isDigit ≠ []) :
    IsDigits (cs.takeWhile Char.isDigit) :=
  ⟨h, fun _ hc => List.mem_takeWhile_imp hc⟩

section Tokens

variable {negative : Bool} {whole cs rest : List Char} {fraction : Option (List Char)} {t : Token}

theorem not_isWhole_missingDigit (h : missingDigit cs = (t, rest)) : ¬ t.IsWhole := by
  cases h
  exact id

/-- The sign of an exponent and the digits after it. -/
theorem exponentText_of_sign {mark : Char} (hmark : mark = 'e' ∨ mark = 'E') {ds : List Char} (hds : IsDigits ds)
    (h : (exponentSign cs).2 = ds ++ rest) :
    ∃ text, mark :: cs = text ++ rest ∧ ExponentText text (some ⟨(exponentSign cs).1, ds⟩) := by
  unfold exponentSign at h ⊢
  split at h
  · exact ⟨mark :: '-' :: ds, congrArg (fun cs => mark :: '-' :: cs) h, .negative hmark hds⟩
  · exact ⟨mark :: '+' :: ds, congrArg (fun cs => mark :: '+' :: cs) h, .positive hmark hds⟩
  · exact ⟨mark :: ds, congrArg (mark :: ·) h, .unsigned hmark hds⟩

theorem exponentText_of_exponentToken (hcs : NoDigit cs) (h : exponentToken negative whole fraction cs = (t, rest))
    (ht : t.IsWhole) :
    ∃ text exponent, cs = text ++ rest ∧ ExponentText text exponent ∧ NoDigit rest ∧
      t = .number (Number.ofParts negative whole fraction exponent) := by
  cases cs with
  | nil =>
    cases h
    exact ⟨[], none, rfl, .none, noDigit_nil, rfl⟩
  | cons mark cs =>
    rw [exponentToken] at h
    split at h
    · next hmark =>
      dsimp only at h
      cases hdigits : (exponentSign cs).2.takeWhile Char.isDigit with
      | nil =>
        rw [hdigits] at h
        exact absurd ht (not_isWhole_missingDigit h)
      | cons d ds =>
        rw [hdigits] at h
        cases h
        have hds : IsDigits (d :: ds) := hdigits ▸ isDigits_takeWhile (hdigits ▸ List.cons_ne_nil d ds)
        obtain ⟨text, htext, he⟩ := exponentText_of_sign hmark hds
          (hdigits ▸ List.takeWhile_append_dropWhile.symm)
        exact ⟨text, _, htext, he, noDigit_dropWhile _, rfl⟩
    · cases h
      exact ⟨[], none, rfl, .none, hcs, rfl⟩

theorem isWhole_of_digits (hne : whole ≠ []) (h : ∀ c ∈ whole, c.isDigit = true)
    (hzero : ∀ c cs, whole = '0' :: c :: cs → False) : IsWhole whole := by
  refine ⟨⟨hne, h⟩, fun hhead => ?_⟩
  obtain ⟨rest, rfl⟩ := List.head?_eq_some_iff.1 hhead
  cases rest with
  | nil => rfl
  | cons c cs => exact (hzero c cs rfl).elim

theorem numeral_of_numberToken (hwhole : ∀ c ∈ whole, c.isDigit = true) (hcs : NoDigit cs)
    (h : numberToken negative whole cs = (t, rest)) (ht : t.IsWhole) :
    ∃ fractionText exponentText fraction exponent, cs = fractionText ++ exponentText ++ rest ∧ IsWhole whole ∧
      FractionText fractionText fraction ∧ ExponentText exponentText exponent ∧ NoDigit rest ∧
      t = .number (Number.ofParts negative whole fraction exponent) := by
  unfold numberToken at h
  split at h
  · exact absurd ht (not_isWhole_missingDigit h)
  · cases h
    exact ht.elim
  · next rest' hne hzero =>
    have hw : IsWhole whole := isWhole_of_digits hne hwhole hzero
    split at h
    · exact absurd ht (not_isWhole_missingDigit h)
    · next hdigits =>
      obtain ⟨text, exponent, htext, he, hrest, rfl⟩ := exponentText_of_exponentToken (noDigit_dropWhile _) h ht
      refine ⟨'.' :: rest'.takeWhile Char.isDigit, text, _, exponent, ?_, hw, .digits (isDigits_takeWhile hdigits), he,
        hrest, rfl⟩
      rw [List.cons_append, List.cons_append, List.append_assoc, ← htext, List.takeWhile_append_dropWhile]
  · next hne hzero hpoint =>
    have hw : IsWhole whole := isWhole_of_digits hne hwhole hzero
    obtain ⟨text, exponent, htext, he, hrest, rfl⟩ := exponentText_of_exponentToken hcs h ht
    exact ⟨[], text, none, exponent, htext, hw, .none, he, hrest, rfl⟩

end Tokens

/-! ### Tokens one after the other -/

theorem eq_append_of_wordToken {value t : Token} {ws cs rest : List Char} (h : wordToken value ws cs = (t, rest))
    (ht : t.IsWhole) : cs = ws ++ rest ∧ t = value := by
  induction ws generalizing cs with
  | nil =>
    cases h
    exact ⟨rfl, rfl⟩
  | cons w ws ih =>
    cases cs with
    | nil =>
      cases h
      exact ht.elim
    | cons c cs =>
      rw [wordToken] at h
      split at h
      · next heq =>
        obtain ⟨rfl, rfl⟩ := ih h
        exact ⟨by rw [heq]; rfl, rfl⟩
      · cases h
        exact ht.elim

/-- What begins with a point or the mark of an exponent is broken. -/
theorem endsNumber_of_isWhole {rest : List Char} (hdigit : NoDigit rest) (h : ∀ t ∈ tokensOf rest, t.IsWhole) :
    EndsNumber rest := by
  cases rest with
  | nil => simp [EndsNumber]
  | cons c rest =>
    rintro _ ⟨⟩
    have htoken : ∀ d ∈ ['.', 'e', 'E'], tokensOf (d :: rest) = .broken (.both .malformed) :: tokensOf [] := by
      intro d hd
      simp only [List.mem_cons, List.not_mem_nil, or_false] at hd
      rcases hd with rfl | rfl | rfl <;> exact tokensOf_cons (by decide) rfl
    have hbroken : ∀ d ∈ ['.', 'e', 'E'], c ≠ d := by
      rintro d hd rfl
      rw [htoken c hd] at h
      exact h _ List.mem_cons_self
    exact ⟨hdigit c rfl, hbroken _ (by simp), hbroken _ (by simp), hbroken _ (by simp)⟩

theorem spelled_cons {c : Char} {cs rest : List Char} {t : Token} (hc : isSpace c = false)
    (h : firstToken c cs = (t, rest)) (ht : t.IsWhole) (hrest : ∀ t ∈ tokensOf rest, t.IsWhole)
    (hspelled : Spelled rest (tokensOf rest)) : Spelled (c :: cs) (t :: tokensOf rest) := by
  unfold firstToken at h
  split at h
  case h_7 =>
    obtain ⟨s, v, rfl, hs, rfl⟩ := written_of_stringToken h ht
    exact .string hs hspelled
  case h_8 =>
    obtain ⟨rfl, rfl⟩ := eq_append_of_wordToken h ht
    exact .mark .null hspelled
  case h_9 =>
    obtain ⟨rfl, rfl⟩ := eq_append_of_wordToken h ht
    exact .mark .true hspelled
  case h_10 =>
    obtain ⟨rfl, rfl⟩ := eq_append_of_wordToken h ht
    exact .mark .false hspelled
  case h_11 =>
    obtain ⟨fractionText, exponentText, fraction, exponent, hcs, hw, hf, he, hdigit, rfl⟩ :=
      numeral_of_numberToken (fun _ hc => List.mem_takeWhile_imp hc) (noDigit_dropWhile cs) h ht
    have hnumber := Spelled.number (.negative hw hf he) (endsNumber_of_isWhole hdigit hrest) hspelled
    rwa [List.cons_append, List.append_assoc, ← hcs, List.takeWhile_append_dropWhile] at hnumber
  case h_12 =>
    split at h
    · next hdigit =>
      obtain ⟨fractionText, exponentText, fraction, exponent, hcs, hw, hf, he, hend, rfl⟩ :=
        numeral_of_numberToken (List.forall_mem_cons.2 ⟨hdigit, fun _ hc => List.mem_takeWhile_imp hc⟩)
          (noDigit_dropWhile cs) h ht
      have hnumber := Spelled.number (.positive hw hf he) (endsNumber_of_isWhole hend hrest) hspelled
      rwa [List.append_assoc, ← hcs, List.cons_append, List.takeWhile_append_dropWhile] at hnumber
    · cases h
      exact ht.elim
  all_goals cases h
  · exact .mark .openArray hspelled
  · exact .mark .closeArray hspelled
  · exact .mark .openObject hspelled
  · exact .mark .closeObject hspelled
  · exact .mark .comma hspelled
  · exact .mark .colon hspelled

/-- A text whose tokens are all unbroken is spelled with them. -/
theorem spelled_of_tokensOf {cs : List Char} (h : ∀ t ∈ tokensOf cs, t.IsWhole) : Spelled cs (tokensOf cs) := by
  fun_induction tokensOf cs with
  | case1 => exact .nil
  | case2 c cs hc ih => exact .blank hc (ih h)
  | case3 c cs hc ih =>
    obtain ⟨ht, hrest⟩ := List.forall_mem_cons.1 h
    exact spelled_cons (Bool.eq_false_iff.2 hc) rfl ht hrest (ih hrest)

theorem isWhole_of_spelled {cs : List Char} {ts : List Token} (h : Spelled cs ts) : ∀ t ∈ ts, t.IsWhole := by
  induction h with
  | nil => nofun
  | blank _ _ ih => exact ih
  | mark ht _ ih => exact List.forall_mem_cons.2 ⟨by cases ht <;> trivial, ih⟩
  | string _ _ ih => exact List.forall_mem_cons.2 ⟨trivial, ih⟩
  | number _ _ _ ih => exact List.forall_mem_cons.2 ⟨trivial, ih⟩

/-- A text is spelled with some tokens just if it is divided into them and none of them is broken. -/
theorem spelled_iff {cs : List Char} {ts : List Token} :
    Spelled cs ts ↔ tokensOf cs = ts ∧ ∀ t ∈ ts, t.IsWhole := by
  constructor
  · exact fun h => ⟨tokensOf_of_spelled h, isWhole_of_spelled h⟩
  · rintro ⟨rfl, h⟩
    exact spelled_of_tokensOf h

end ChatModeration.Json
