import Concordance.Text.Printable

/-!
# Quoted Texts

A text as it is shown inside a description of something else: between
quotation marks, with everything that could not be told apart spelled out.

## Main definitions

* `escapeCharacter`: How one character is shown between quotation marks.
* `quoted`: A text between quotation marks.
-/

namespace Concordance

namespace Text

/-- A code point in hexadecimal between braces. -/
def escapedCodePoint (n : Nat) : List Char :=
  ['\\', 'u', '\x7b'] ++ Nat.toDigits 16 n ++ ['\x7d']

/-- How one character is shown between quotation marks. -/
def escapeCharacter (c : Char) : List Char :=
  match c with
  | '"' => ['\\', '"']
  | '\\' => ['\\', '\\']
  | '\n' => ['\\', 'n']
  | '\r' => ['\\', 'r']
  | '\t' => ['\\', 't']
  | '\x00' => ['\\', '0']
  | c => if isShowable c then [c] else escapedCodePoint c.toNat

/-- A text between quotation marks. -/
def quoted (s : String) : String :=
  String.ofList (['"'] ++ s.toList.flatMap escapeCharacter ++ ['"'])

end Text

end Concordance
