import RuleTrace.Text.Numeral
import RuleTrace.Text.Printable

/-!
# `RuleTrace.Text.Quoted`: text between quotes, for diagnostics

`quoted` shows a text so that every character of it can be told on a
plain terminal: quotes and backslashes are escaped, the four common
controls have a letter, and what is unprintable is written as its code
point. So is what would be drawn onto the character before it.
-/

set_option autoImplicit false

namespace RuleTrace.Text

/-- A character by its code point. -/
def escapedCode (c : Char) : List Char := '\\' :: 'u' :: '\x7b' :: hex 1 c.toNat ++ ['\x7d']

/-- The form of a character inside quotes. -/
def quotedChar (c : Char) : List Char :=
  match c with
  | '\x00' => ['\\', '0']
  | '\t' => ['\\', 't']
  | '\n' => ['\\', 'n']
  | '\r' => ['\\', 'r']
  | '"' => ['\\', '"']
  | '\\' => ['\\', '\\']
  | c => if isPrintable c && !isExtender c then [c] else escapedCode c

/-- The text between double quotes. -/
def quoted (s : List Char) : List Char := '"' :: s.flatMap quotedChar ++ ['"']

end RuleTrace.Text
