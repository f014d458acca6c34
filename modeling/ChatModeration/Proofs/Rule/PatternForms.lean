import ChatModeration.Proofs.Text.Pieces
import ChatModeration.Rule.Matcher

/-!
# The two forms of a pattern

A pattern is an expression, or an expression between `~/` and a slash with letters for flags after it.  The last slash
ends the expression, so that any expression can be written in the second form, also one with slashes, and letters are
read as flags only behind it.  What is made of a pattern depends on its expression and on which flags are set, and an
expression without letters is the same in either form (`compile_forms`).
-/

namespace ChatModeration.Matcher

open Pattern (Expr Flags)

variable {options : RuleOptions}

/-! ### Flags -/

/-- The letters that stand for flags. -/
def flagLetters : List Char := ['i', 'm', 's', 'x']

/-- The flags with those set that some letters stand for. -/
def withLetters (flags : Flags) (letters : List Char) : Flags :=
  { flags with
    ignoreCase := flags.ignoreCase || letters.contains 'i'
    multiLine := flags.multiLine || letters.contains 'm'
    dotAll := flags.dotAll || letters.contains 's'
    verbose := flags.verbose || letters.contains 'x' }

theorem withLetters_nil (flags : Flags) : withLetters flags [] = flags := by
  simp [withLetters]

theorem withLetters_cons (flags : Flags) (c : Char) (letters : List Char) :
    withLetters (withLetters flags [c]) letters = withLetters flags (c :: letters) := by
  simp [withLetters, Bool.or_assoc]

theorem withLetters_congr (flags : Flags) {letters others : List Char} (h : ∀ c, c ∈ letters ↔ c ∈ others) :
    withLetters flags letters = withLetters flags others := by
  simp [withLetters, List.contains_eq_mem, h]

/-- A letter sets its flag or is unknown. -/
theorem addFlag_eq (flags : Flags) (c : Char) :
    addFlag flags c = if c ∈ flagLetters then .ok (withLetters flags [c]) else .error (.unknownFlag c) := by
  unfold addFlag
  split
  · simp [flagLetters, withLetters]
  · simp [flagLetters, withLetters]
  · simp [flagLetters, withLetters]
  · simp [flagLetters, withLetters]
  · rw [if_neg]
    simp_all [flagLetters]

/-- Letters are read from left to right, up to the first one that is unknown. -/
theorem foldlM_addFlag (flags : Flags) (letters : List Char) :
    letters.foldlM addFlag flags =
      match letters.find? (· ∉ flagLetters) with
      | none => .ok (withLetters flags letters)
      | some c => .error (.unknownFlag c) := by
  induction letters generalizing flags with
  | nil =>
    rw [withLetters_nil]
    rfl
  | cons c letters ih =>
    rw [List.foldlM_cons, addFlag_eq]
    by_cases hc : c ∈ flagLetters
    · rw [if_pos hc, List.find?_cons_of_neg (by simpa using hc), ← withLetters_cons flags c letters]
      exact ih (withLetters flags [c])
    · rw [if_neg hc, List.find?_cons_of_pos (by simpa using hc)]
      rfl

/-! ### Both forms -/

/-- The matcher of an expression under given flags. -/
def ofExpression (flags : Flags) (body : String) : Except PatternFault Matcher :=
  match Expr.read? flags body with
  | some e => .ok (pattern body e)
  | none => .error .rejected

/-- The flags that options and letters set. -/
def flagsOf (options : RuleOptions) (letters : List Char) : Flags :=
  withLetters { ignoreCase := !options.caseSensitive } letters

/-- A pattern in the form with letters for flags. -/
def delimited (body letters : String) : String := "~/" ++ body ++ "/" ++ letters

/-- Whether a pattern has the beginning of the form with letters. -/
def IsDelimited (source : String) : Prop := "~/".toList <+: source.toList

instance (source : String) : Decidable (IsDelimited source) := inferInstanceAs (Decidable (_ <+: _))

theorem toList_delimited (body letters : String) :
    (delimited body letters).toList = '~' :: '/' :: (body.toList ++ '/' :: letters.toList) := by
  simp [delimited]

theorem splitSource_delimited (body letters : String) (h : '/' ∉ letters.toList) :
    splitSource (delimited body letters) = some (body.toList, letters.toList) := by
  rw [splitSource, toList_delimited]
  exact Text.splitAtLast_append h

theorem splitSource_of_not_isDelimited {source : String} (h : ¬ IsDelimited source) :
    splitSource source = some (source.toList, []) := by
  unfold splitSource
  split
  · next content hsource =>
    refine absurd ?_ h
    rw [IsDelimited, hsource]
    exact ⟨content, rfl⟩
  · rfl

theorem splitSource_open {content : String} (h : '/' ∉ content.toList) : splitSource ("~/" ++ content) = none := by
  have hsource : ("~/" ++ content).toList = '~' :: '/' :: content.toList := by simp
  rw [splitSource, hsource]
  exact Text.splitAtLast_eq_none h

/-- A pattern that is split into an expression and letters. -/
theorem compile_of_split {source body : String} {letters : List Char}
    (h : splitSource source = some (body.toList, letters)) :
    compile source options =
      match letters.find? (· ∉ flagLetters) with
      | none => ofExpression (flagsOf options letters) body
      | some c => .error (.unknownFlag c) := by
  rw [compile, h]
  dsimp only
  rw [foldlM_addFlag]
  cases letters.find? (· ∉ flagLetters) with
  | none =>
    show _ = ofExpression _ _
    rw [ofExpression, String.ofList_toList]
    rfl
  | some c => rfl

theorem compile_delimited {body letters : String} (h : '/' ∉ letters.toList) :
    compile (delimited body letters) options =
      match letters.toList.find? (· ∉ flagLetters) with
      | none => ofExpression (flagsOf options letters.toList) body
      | some c => .error (.unknownFlag c) := compile_of_split (splitSource_delimited body letters h)

/-- A pattern with letters can be used if all letters are known and its expression can be read. -/
theorem compile_delimited_eq_ok_iff {body letters : String} (h : '/' ∉ letters.toList) {m : Matcher} :
    compile (delimited body letters) options = .ok m ↔
      (∀ c ∈ letters.toList, c ∈ flagLetters) ∧ ofExpression (flagsOf options letters.toList) body = .ok m := by
  have hknown : letters.toList.find? (· ∉ flagLetters) = none ↔ ∀ c ∈ letters.toList, c ∈ flagLetters := by
    simp [List.find?_eq_none]
  rw [compile_delimited h, ← hknown]
  cases letters.toList.find? (· ∉ flagLetters) with
  | none => simp
  | some c => simp

/-- An expression is the same with or without the marks of the form with letters. -/
theorem compile_bare {body : String} (h : ¬ IsDelimited body) :
    compile body options = compile (delimited body "") options := by
  rw [compile_of_split (splitSource_of_not_isDelimited h), compile_delimited (by simp)]
  rfl

theorem ofExpression_eq_ok_iff {flags : Flags} {body : String} {m : Matcher} :
    ofExpression flags body = .ok m ↔ ∃ e, Expr.read? flags body = some e ∧ m = .pattern body e := by
  unfold ofExpression
  cases Expr.read? flags body with
  | none => simp
  | some e => simp [eq_comm]

/--
A pattern between `~/` and a last slash can be used just if all letters after the slash stand for flags and the
expression before it can be read under these flags; the matcher depends on the expression, on which letters there are
and on whether case matters.  A pattern that begins with `~/` and has no other slash cannot be used, and one that does
not begin with `~/` is the same as with marks around it and no letters.
-/
theorem compile_forms (body letters : String) (options : RuleOptions) (h : '/' ∉ letters.toList) :
    (∀ m, compile (delimited body letters) options = .ok m ↔
      (∀ c ∈ letters.toList, c ∈ flagLetters) ∧
        ∃ e, Expr.read? (flagsOf options letters.toList) body = some e ∧ m = .pattern body e) ∧
    (∀ (others : String) (options' : RuleOptions), (∀ c, c ∈ others.toList ↔ c ∈ letters.toList) →
      options'.caseSensitive = options.caseSensitive → ∀ m,
        compile (delimited body others) options' = .ok m ↔ compile (delimited body letters) options = .ok m) ∧
    (∀ content : String, '/' ∉ content.toList → compile ("~/" ++ content) options = .error .unterminated) ∧
    (¬ IsDelimited body → compile body options = compile (delimited body "") options) := by
  refine ⟨fun m => ?_, fun others options' hothers hcase m => ?_, fun content hcontent => ?_, compile_bare⟩
  · rw [compile_delimited_eq_ok_iff h, ofExpression_eq_ok_iff]
  · have hslash : '/' ∉ others.toList := mt (hothers '/').1 h
    have hflags : flagsOf options' others.toList = flagsOf options letters.toList := by
      rw [flagsOf, flagsOf, hcase, withLetters_congr _ hothers]
    rw [compile_delimited_eq_ok_iff hslash, compile_delimited_eq_ok_iff h, hflags]
    simp only [hothers]
  · rw [compile, splitSource_open hcontent]

/-- An expression with a slash, and something like a flag behind it, under flags in any order. -/
theorem compile_forms_slash :
    let options : RuleOptions := { caseSensitive := true }
    '/' ∉ "sis".toList ∧ '/' ∉ "a".toList ∧ ¬ IsDelimited "a/x" ∧
      (∃ m, compile "~/a/x/sis" options = .ok m ∧ compile "~/a/x/is" options = .ok m) ∧
      compile "~/a" options = .error .unterminated ∧ compile "a/x" options = compile "~/a/x/" options := by
  intro options
  have hletters : '/' ∉ "sis".toList := by decide
  have hopen : '/' ∉ "a".toList := by decide
  have hbare : ¬ IsDelimited "a/x" := by decide
  obtain ⟨hok, hsame, hunterminated, hforms⟩ := compile_forms "a/x" "sis" options hletters
  have hread : (Expr.read? (flagsOf options "sis".toList) "a/x").isSome = true := by decide +kernel
  obtain ⟨e, he⟩ := Option.isSome_iff_exists.1 hread
  have hknown : ∀ c ∈ "sis".toList, c ∈ flagLetters := by simp [flagLetters]
  have hm := (hok (.pattern "a/x" e)).2 ⟨hknown, e, he, rfl⟩
  have hset : ∀ c, c ∈ "is".toList ↔ c ∈ "sis".toList := by
    intro c
    simpa using (Or.inr : c = 's' → c = 'i' ∨ c = 's')
  exact ⟨hletters, hopen, hbare, ⟨_, hm, (hsame "is" options hset rfl _).2 hm⟩, hunterminated "a" hopen, hforms hbare⟩

end ChatModeration.Matcher
