import ChatModeration.Json.Number

/-!
# Tokens of a JSON text

`tokens` divides a text into the tokens of JSON.  Where the text stops being JSON the list ends with a token `broken`,
which says how: the text is malformed there, or it ends too early.  Text that is skipped rather than read is held to a
looser standard (numbers may be out of range, escaped surrogates need no partner), so a broken token keeps one answer
for each.
-/

namespace ChatModeration.Json

/-- How a text fails to be JSON. -/
inductive Fault where
  /-- The text holds something that cannot stand where it stands. -/
  | malformed
  /-- The text ends inside a value. -/
  | unfinished
deriving DecidableEq, Repr

/-- The fault that a reader meets, and the fault that a reader meets who skips the value. -/
structure Break where
  reading : Fault
  skipping : Fault
deriving DecidableEq, Repr

/-- The same fault for both readers. -/
def Break.both (f : Fault) : Break := ⟨f, f⟩

/-- A token. -/
inductive Token where
  | openArray | closeArray | openObject | closeObject | comma | colon
  | null
  | bool (value : Bool)
  /-- A number, or none if it is out of range. -/
  | number (value : Option Number)
  /-- A string, or none if it has an unpaired surrogate. -/
  | string (value : Option String)
  /-- A string that is broken off. -/
  | brokenString (how : Break)
  /-- Anything else that is broken off. -/
  | broken (how : Break)
deriving DecidableEq, Repr

/-- The blank characters between tokens. -/
def isSpace (c : Char) : Bool := c == ' ' || c == '\n' || c == '\t' || c == '\r'

/-! ### Strings -/

/-- The first half of a surrogate pair. -/
def isLeading (n : Nat) : Bool := 0xD800 ≤ n && n < 0xDC00

/-- The second half of a surrogate pair. -/
def isTrailing (n : Nat) : Bool := 0xDC00 ≤ n && n < 0xE000

/-- The character that a surrogate pair stands for. -/
def joinSurrogates (lead trail : Nat) : Char :=
  Char.ofNat (0x10000 + (lead - 0xD800) * 0x400 + (trail - 0xDC00))

/-- The character that a backslash and `c` stand for. -/
def simpleEscape (c : Char) : Option Char :=
  match c with
  | '"' => some '"'
  | '\\' => some '\\'
  | '/' => some '/'
  | 'b' => some '\x08'
  | 'f' => some '\x0C'
  | 'n' => some '\n'
  | 'r' => some '\r'
  | 't' => some '\t'
  | _ => none

/-- What lies between the quotes of a string. -/
structure Content where
  chars : List Char
  /-- Whether an escaped surrogate without its partner comes before any other fault. -/
  unpaired : Bool
  fault : Option Fault

/-- Puts a character in front. -/
def Content.cons (c : Char) (r : Content) : Content := { r with chars := c :: r.chars }

/-- Content that breaks off. -/
def Content.stop (f : Fault) : Content := ⟨[], false, some f⟩

/-- The number of bytes of a text in UTF-8. -/
def byteCount (cs : List Char) : Nat := cs.foldl (fun n c => n + c.utf8Size) 0

/-- Four hexadecimal digits that cannot be read: the text ends, or one of them is no digit. -/
def unreadableDigits (after : Nat) (cs : List Char) : Fault :=
  if byteCount cs + after < 4 then .unfinished else .malformed

/--
Reads the content of a string.  `after` is the number of bytes that follow the content, the closing quote included; it
is zero if the text ends with the content.
-/
def readContent (after : Nat) : List Char → Content
  | [] => ⟨[], false, none⟩
  | '\\' :: 'u' :: a :: b :: c :: d :: cs =>
    match Text.hexValue? [a, b, c, d] with
    | none => .stop (unreadableDigits after (a :: b :: c :: d :: cs))
    | some n =>
      let lone := { readContent after cs with unpaired := true }
      if isTrailing n then lone
      else if isLeading n then
        match cs with
        | [] => if after = 0 then readContent after [] else lone
        | ['\\'] => if after = 0 then readContent after ['\\'] else lone
        | '\\' :: 'u' :: e :: f :: g :: h :: ds =>
          match Text.hexValue? [e, f, g, h] with
          | some m =>
            if isTrailing m then .cons (joinSurrogates n m) (readContent after ds) else lone
          | none => .stop (unreadableDigits after (e :: f :: g :: h :: ds))
        | '\\' :: 'u' :: ds => .stop (unreadableDigits after ds)
        | _ => lone
      else .cons (Char.ofNat n) (readContent after cs)
  | '\\' :: 'u' :: cs => .stop (unreadableDigits after cs)
  | '\\' :: c :: cs =>
    match simpleEscape c with
    | some d => .cons d (readContent after cs)
    | none => .stop .malformed
  | ['\\'] => ⟨[], false, none⟩
  | c :: cs => if c.toNat < 0x20 then .stop .malformed else .cons c (readContent after cs)

/-- Divides the text after an opening quote at the closing one, which is the first that no backslash precedes. -/
def splitString : List Char → List Char × Option (List Char)
  | [] => ([], none)
  | '"' :: cs => ([], some cs)
  | ['\\'] => (['\\'], none)
  | '\\' :: c :: cs => let r := splitString cs; ('\\' :: c :: r.1, r.2)
  | c :: cs => let r := splitString cs; (c :: r.1, r.2)

/-- The token for the text after an opening quote, and what follows the token. -/
def stringToken (cs : List Char) : Token × List Char :=
  match splitString cs with
  | (s, some rest) =>
    let r := readContent (byteCount rest + 1) s
    match r.fault with
    | some f => (.brokenString ⟨if r.unpaired then .malformed else f, f⟩, [])
    | none => (.string (if r.unpaired then none else some (String.ofList r.chars)), rest)
  | (s, none) =>
    let r := readContent 0 s
    let f := r.fault.getD .unfinished
    (.brokenString ⟨if r.unpaired then .malformed else f, f⟩, [])

/-! ### Numbers -/

/-- The token where a number needs a digit and the text goes on with `cs`. -/
def missingDigit (cs : List Char) : Token × List Char :=
  (.broken ⟨if cs.isEmpty then .unfinished else .malformed, .malformed⟩, [])

/-- Whether an exponent is negative, and its text without the sign. -/
def exponentSign : List Char → Bool × List Char
  | '-' :: cs => (true, cs)
  | '+' :: cs => (false, cs)
  | cs => (false, cs)

/-- The token of a number whose exponent, if any, is still to be read. -/
def exponentToken (negative : Bool) (whole : List Char) (fraction : Option (List Char)) :
    List Char → Token × List Char
  | [] => (.number (Number.ofParts negative whole fraction none), [])
  | c :: cs =>
    if c = 'e' ∨ c = 'E' then
      let rest := (exponentSign cs).2
      match rest.takeWhile Char.isDigit with
      | [] => missingDigit rest
      | digits =>
        (.number (Number.ofParts negative whole fraction (some ⟨(exponentSign cs).1, digits⟩)),
          rest.dropWhile Char.isDigit)
    else (.number (Number.ofParts negative whole fraction none), c :: cs)

/-- The token of a number with the given digits before the point. -/
def numberToken (negative : Bool) (whole rest : List Char) : Token × List Char :=
  match whole, rest with
  | [], _ => missingDigit rest
  | '0' :: _ :: _, _ => (.broken (.both .malformed), [])
  | _, '.' :: rest =>
    match rest.takeWhile Char.isDigit with
    | [] => missingDigit rest
    | digits => exponentToken negative whole (some digits) (rest.dropWhile Char.isDigit)
  | _, _ => exponentToken negative whole none rest

/-! ### Words and the whole text -/

/-- The token of a word whose remaining letters are given. -/
def wordToken (value : Token) : List Char → List Char → Token × List Char
  | [], cs => (value, cs)
  | _ :: _, [] => (.broken (.both .unfinished), [])
  | w :: ws, c :: cs => if w = c then wordToken value ws cs else (.broken (.both .malformed), [])

/-- The first token of a text that begins with the character `c`, which is not blank. -/
def firstToken (c : Char) (cs : List Char) : Token × List Char :=
  match c with
  | '[' => (.openArray, cs)
  | ']' => (.closeArray, cs)
  | '\x7b' => (.openObject, cs)
  | '\x7d' => (.closeObject, cs)
  | ',' => (.comma, cs)
  | ':' => (.colon, cs)
  | '"' => stringToken cs
  | 'n' => wordToken .null ['u', 'l', 'l'] cs
  | 't' => wordToken (.bool true) ['r', 'u', 'e'] cs
  | 'f' => wordToken (.bool false) ['a', 'l', 's', 'e'] cs
  | '-' => numberToken true (cs.takeWhile Char.isDigit) (cs.dropWhile Char.isDigit)
  | _ =>
    if c.isDigit then numberToken false (c :: cs.takeWhile Char.isDigit) (cs.dropWhile Char.isDigit)
    else (.broken (.both .malformed), [])

private theorem length_splitString_le {cs rest : List Char} (h : (splitString cs).2 = some rest) :
    rest.length ≤ cs.length := by
  fun_induction splitString cs with
  | case1 => simp at h
  | case2 cs => simp at h; simp [h]
  | case3 => simp at h
  | case4 c cs _ ih =>
    have := ih h
    simp only [List.length_cons]; omega
  | case5 c cs _ _ _ _ ih =>
    have := ih h
    simp only [List.length_cons]; omega

private theorem length_stringToken_le (cs : List Char) : (stringToken cs).2.length ≤ cs.length := by
  unfold stringToken
  split
  · next h =>
    dsimp only
    split
    · simp
    · exact length_splitString_le (by rw [h])
  · simp

private theorem length_dropWhile_le (p : Char → Bool) (cs : List Char) : (cs.dropWhile p).length ≤ cs.length :=
  (List.dropWhile_sublist p).length_le

private theorem length_exponentToken_le (negative : Bool) (whole : List Char) (fraction : Option (List Char))
    (cs : List Char) : (exponentToken negative whole fraction cs).2.length ≤ cs.length := by
  have hs : ∀ cs : List Char, (exponentSign cs).2.length ≤ cs.length := by
    intro cs; unfold exponentSign; split <;> simp
  unfold exponentToken
  split
  · simp
  · next c cs =>
    have h₁ := hs cs
    have h₂ := length_dropWhile_le Char.isDigit (exponentSign cs).2
    split
    · dsimp only
      split
      · simp [missingDigit]
      · simp only [List.length_cons]; omega
    · simp

private theorem length_numberToken_le (negative : Bool) (whole rest : List Char) :
    (numberToken negative whole rest).2.length ≤ rest.length := by
  unfold numberToken
  split
  · simp [missingDigit]
  · simp
  · next rest _ _ =>
    split
    · simp [missingDigit]
    · have h₁ := length_exponentToken_le negative whole (some (rest.takeWhile Char.isDigit))
        (rest.dropWhile Char.isDigit)
      have h₂ := length_dropWhile_le Char.isDigit rest
      simp only [List.length_cons]; omega
  · exact length_exponentToken_le ..

private theorem length_wordToken_le (value : Token) (ws cs : List Char) :
    (wordToken value ws cs).2.length ≤ cs.length := by
  fun_induction wordToken value ws cs <;> simp_all
  omega

/-- The first token takes at least one character. -/
theorem length_firstToken_le (c : Char) (cs : List Char) : (firstToken c cs).2.length ≤ cs.length := by
  have hn := fun negative whole =>
    Nat.le_trans (length_numberToken_le negative whole (cs.dropWhile Char.isDigit))
      (length_dropWhile_le Char.isDigit cs)
  unfold firstToken
  split
  case h_7 => exact length_stringToken_le cs
  case h_8 | h_9 | h_10 => exact length_wordToken_le ..
  case h_11 => exact hn ..
  case h_12 =>
    split
    · exact hn ..
    · simp
  all_goals simp

/-- The tokens of a list of characters. -/
def tokensOf : List Char → List Token
  | [] => []
  | c :: cs => if isSpace c then tokensOf cs else (firstToken c cs).1 :: tokensOf (firstToken c cs).2
termination_by cs => cs.length
decreasing_by
  · simp
  · have := length_firstToken_le c cs
    simp only [List.length_cons]; omega

/-- The tokens of a text. -/
def tokens (s : String) : List Token := tokensOf s.toList

end ChatModeration.Json
