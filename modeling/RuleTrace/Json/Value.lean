import RuleTrace.Text.Numeral

/-!
# `RuleTrace.Json.Value`: JSON values and their compact text

Values as they are read and written here. Members of an object keep
their order and may repeat a name, since what a repeated name means is
for the reader of the object to say. Numbers are told apart by what
can be done with them: only a whole number of at most 64 bits has a
value (`Number.natural`, `Number.negative`); every other number is
`inexact`, and no field takes one.

`Value.render` is the compact form: no blanks, and in strings an
escape only where one is needed.
-/

set_option autoImplicit false

namespace RuleTrace.Json

/-- A number by the use it can have. -/
inductive Number where
  /-- a whole number from zero to `2 ^ 64 - 1` -/
  | natural (n : Nat)
  /-- minus `n`, where `n` is from one to `2 ^ 63` -/
  | negative (n : Nat)
  /-- a number with a point or an exponent, minus zero, or one that is
  too large -/
  | inexact
  deriving DecidableEq, Repr

/-- A JSON value. -/
inductive Value where
  | null
  | bool (b : Bool)
  | number (n : Number)
  | string (s : String)
  | array (elements : List Value)
  | object (members : List (String × Value))
  deriving Repr

/-- The letter after the backslash for characters that have one. -/
def escapeLetter? (c : Char) : Option Char :=
  match c with
  | '"' => some '"'
  | '\\' => some '\\'
  | '\x08' => some 'b'
  | '\x0c' => some 'f'
  | '\n' => some 'n'
  | '\r' => some 'r'
  | '\t' => some 't'
  | _ => none

/-- A character inside a string. -/
def escapedChar (c : Char) : List Char :=
  match escapeLetter? c with
  | some l => ['\\', l]
  | none => if c.toNat < 0x20 then '\\' :: 'u' :: Text.hex 4 c.toNat else [c]

/-- A string between quotes. -/
def renderString (s : String) : List Char := '"' :: s.toList.flatMap escapedChar ++ ['"']

/-- A number; the value of an inexact one is not kept, and zero with a
point stands for it. -/
def Number.render : Number → List Char
  | natural n => Text.decimal n
  | negative n => '-' :: Text.decimal n
  | inexact => ['0', '.', '0']

mutual

/-- The compact text of a value. -/
def Value.render : Value → List Char
  | .null => ['n', 'u', 'l', 'l']
  | .bool true => ['t', 'r', 'u', 'e']
  | .bool false => ['f', 'a', 'l', 's', 'e']
  | .number n => n.render
  | .string s => renderString s
  | .array [] => ['[', ']']
  | .array (x :: xs) => '[' :: x.render ++ renderElements xs
  | .object [] => ['\x7b', '\x7d']
  | .object ((k, x) :: ms) => '\x7b' :: renderString k ++ ':' :: x.render ++ renderMembers ms

/-- The elements after the first, and the closing bracket. -/
def renderElements : List Value → List Char
  | [] => [']']
  | x :: xs => ',' :: x.render ++ renderElements xs

/-- The members after the first, and the closing brace. -/
def renderMembers : List (String × Value) → List Char
  | [] => ['\x7d']
  | (k, x) :: ms => ',' :: renderString k ++ ':' :: x.render ++ renderMembers ms

end

end RuleTrace.Json
