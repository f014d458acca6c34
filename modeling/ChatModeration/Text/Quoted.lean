import ChatModeration.Text.Category

/-!
# Quoted text

A text in double quotes as it appears in messages: the quote, the backslash and the characters that do not show are
written as escapes.
-/

namespace ChatModeration.Text

/-- A character by its code point, in hexadecimal digits between braces. -/
def unicodeEscape (c : Char) : List Char :=
  ['\\', 'u', '\x7b'] ++ Nat.toDigits 16 c.toNat ++ ['\x7d']

/-- A character of a quoted text. -/
def escapeChar (c : Char) : List Char :=
  match c with
  | '\x00' => ['\\', '0']
  | '\t' => ['\\', 't']
  | '\r' => ['\\', 'r']
  | '\n' => ['\\', 'n']
  | '\\' => ['\\', '\\']
  | '"' => ['\\', '"']
  | _ => if extendsGrapheme c || !isPrintable c then unicodeEscape c else [c]

/-- The text between double quotes. -/
def quoted (s : String) : String := String.ofList ('"' :: s.toList.flatMap escapeChar ++ ['"'])

end ChatModeration.Text
