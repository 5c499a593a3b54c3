import SqlBuilder.Text.Hidden
import SqlBuilder.Text.Numeral

/-! # Texts in quotes

`showText` puts a text between double quotes in a form that can be read without doubt:
quotes, backslashes and the common control characters are written as escapes of two
characters, and every other character that cannot be shown as its code point.
-/
namespace SqlBuilder
namespace Text

/-- A code point between braces, behind a backslash and the letter u. -/
def showCodePoint (c : Char) : List Char :=
  ['\\', 'u', '\x7b'] ++ Nat.toDigits 16 c.toNat ++ ['\x7d']

/-- A character of a text in quotes. -/
def showChar (c : Char) : List Char :=
  match c with
  | '\x00' => ['\\', '0']
  | '\t' => ['\\', 't']
  | '\r' => ['\\', 'r']
  | '\n' => ['\\', 'n']
  | '"' => ['\\', '"']
  | '\\' => ['\\', '\\']
  | c => if isHidden c then showCodePoint c else [c]

/-- A text between quotes. -/
def showText (s : String) : String :=
  String.ofList ('"' :: s.toList.flatMap showChar ++ ['"'])

end Text
end SqlBuilder
