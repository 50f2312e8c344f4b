/-!
# `RuleTrace.Text.Numeral`: numbers written as digits

Writing a number in decimal or hexadecimal notation, and reading one
back. The readers take digits only: no blank, no separator and no
sign, except that `word32?` allows one leading `+`.
-/

set_option autoImplicit false

namespace RuleTrace.Text

/-- A number in decimal digits. -/
def decimal (n : Nat) : List Char := Nat.toDigits 10 n

/-- A number in decimal digits, with a minus sign below zero. -/
def signedDecimal (z : Int) : List Char :=
  if z < 0 then '-' :: decimal z.natAbs else decimal z.natAbs

/-- A text filled up on the left to at least `width` characters. -/
def padLeft (fill : Char) (width : Nat) (s : List Char) : List Char :=
  List.replicate (width - s.length) fill ++ s

/-- A text filled up with spaces on the right to at least `width`
characters. -/
def padRight (width : Nat) (s : List Char) : List Char :=
  s ++ List.replicate (width - s.length) ' '

/-- A number in lower-case hexadecimal digits, at least `width` of
them. -/
def hex (width n : Nat) : List Char := padLeft '0' width (Nat.toDigits 16 n)

/-- Octets in lower-case hexadecimal digits, two each. -/
def hexOctets (bs : List UInt8) : List Char := bs.flatMap fun b => hex 2 b.toNat

/-- The value of a digit below ten. -/
def digit? (c : Char) : Option Nat :=
  if c.isDigit then some (c.toNat - '0'.toNat) else none

/-- The value of a hexadecimal digit, of either case. -/
def hexDigit? (c : Char) : Option Nat :=
  if c.isDigit then some (c.toNat - '0'.toNat)
  else if 'a' ≤ c ∧ c ≤ 'f' then some (c.toNat - 'a'.toNat + 10)
  else if 'A' ≤ c ∧ c ≤ 'F' then some (c.toNat - 'A'.toNat + 10)
  else none

/-- The character whose number this is, if there is one. -/
def charOf? (n : Nat) : Option Char := if h : n.isValidChar then some (.ofNatAux n h) else none

/-- The number that a non-empty string of digits below `base` (at
most 16) writes. -/
def natInBase? (base : Nat) (s : List Char) : Option Nat :=
  if s.isEmpty then none
  else s.foldlM (fun acc c => (hexDigit? c).bind fun d =>
    if d < base then some (base * acc + d) else none) 0

/-- The number that a non-empty string of decimal digits writes. -/
def nat? (s : List Char) : Option Nat := natInBase? 10 s

/-- The text without one leading plus sign. -/
def dropPlus : List Char → List Char
  | '+' :: s => s
  | s => s

/-- A number below `2 ^ 32` in decimal digits, after an optional plus
sign. -/
def word32? (s : List Char) : Option Nat :=
  (nat? (dropPlus s)).filter (· < UInt32.size)

end RuleTrace.Text
