import RuleTrace.Text.Numeral

/-!
# `RuleTrace.Decimal.Shortest`: the fewest digits that read back

A binary64 number is written with the fewest decimal digits that still
identify it, without an exponent. The work is exact integer
arithmetic on the number's bits:

* the reals that round to the number form an interval, from halfway
  to its lower neighbour to halfway to its upper one, ends included
  exactly when the mantissa is even (`Binary.readsBack`);
* for one digit, two digits and so on, the two neighbours of the
  number on that decimal grid are tested; the first grid with a hit
  wins, of two hits the nearer one, and an exact tie goes upward
  (`Binary.shortest`).

Seventeen digits always suffice. Should the search end without a hit
all the same, the exact value is written.
-/

set_option autoImplicit false

namespace RuleTrace.Decimal

/-- A finite non-negative number `mantissa * 2 ^ exponent`. -/
structure Binary where
  mantissa : Nat
  exponent : Int
  /-- whether the gap to the number below is half the gap above -/
  narrowBelow : Bool

/-- The magnitude of a finite number with these bits. -/
def Binary.ofBits (bits : UInt64) : Binary :=
  let e : Nat := bits.toNat / Nat.pow 2 52 % Nat.pow 2 11
  let f : Nat := bits.toNat % Nat.pow 2 52
  if e = 0 then ⟨f, -1074, false⟩ else ⟨Nat.pow 2 52 + f, (e : Int) - 1075, f = 0 ∧ 1 < e⟩

/-- The decimal `digits * 10 ^ exponent`. -/
structure Scaled where
  digits : Nat
  exponent : Int
  deriving DecidableEq, Repr

/-- Compares `a * 10 ^ i` with `b * 2 ^ j`. -/
def compareScaled (a : Nat) (i : Int) (b : Nat) (j : Int) : Ordering :=
  compare (a * Nat.pow 10 i.toNat * Nat.pow 2 (-j).toNat)
    (b * Nat.pow 2 j.toNat * Nat.pow 10 (-i).toNat)

/-- Whether the decimal lies among the reals that round to `x`, with
ties to the even mantissa. -/
def Binary.readsBack (x : Binary) (d : Scaled) : Bool :=
  let low := if x.narrowBelow then 4 * x.mantissa - 1 else 4 * x.mantissa - 2
  let high := 4 * x.mantissa + 2
  let ends := x.mantissa % 2 = 0
  let fromLow := compareScaled d.digits d.exponent low (x.exponent - 2)
  let fromHigh := compareScaled d.digits d.exponent high (x.exponent - 2)
  (fromLow = .gt ∨ (ends ∧ fromLow = .eq)) ∧ (fromHigh = .lt ∨ (ends ∧ fromHigh = .eq))

/-- Numerator and denominator of the number. -/
def Binary.ratio (x : Binary) : Nat × Nat :=
  (x.mantissa * Nat.pow 2 x.exponent.toNat, Nat.pow 2 (-x.exponent).toNat)

/-- The least `k` with `x < 10 ^ k`, for a positive number. -/
def Binary.magnitude (x : Binary) : Int :=
  let (num, den) := x.ratio
  if den ≤ num then (Nat.toDigits 10 (num / den)).length
  else 1 - (((List.range 400).find? fun j => den ≤ num * Nat.pow 10 j).getD 400 : Nat)

/-- The candidate of `n` significant digits, if one reads back. -/
def Binary.candidate (x : Binary) (n : Nat) : Option Scaled :=
  let (num, den) := x.ratio
  let e := x.magnitude - n
  let num' := num * Nat.pow 10 (-e).toNat
  let den' := den * Nat.pow 10 e.toNat
  let low : Scaled := ⟨num' / den', e⟩
  let high : Scaled := ⟨num' / den' + 1, e⟩
  match x.readsBack low, x.readsBack high with
  | true, true => if 2 * (num' % den') < den' then some low else some high
  | true, false => some low
  | false, true => some high
  | false, false => none

/-- The exact decimal value. -/
def Binary.exact (x : Binary) : Scaled :=
  if 0 ≤ x.exponent then ⟨x.mantissa * Nat.pow 2 x.exponent.toNat, 0⟩
  else ⟨x.mantissa * Nat.pow 5 (-x.exponent).toNat, x.exponent⟩

/-- The decimal of fewest digits that reads back as `x`. -/
def Binary.shortest (x : Binary) : Scaled :=
  if x.mantissa = 0 then ⟨0, 0⟩
  else ((List.range 17).findSome? fun n => x.candidate (n + 1)).getD x.exact

/-- Lays a decimal out without an exponent; the point is written only
before a digit other than zero. -/
def Scaled.positional (d : Scaled) : List Char :=
  if 0 ≤ d.exponent then
    if d.digits = 0 then ['0']
    else Text.decimal d.digits ++ List.replicate d.exponent.toNat '0'
  else
    let places := (-d.exponent).toNat
    let all := Text.padLeft '0' (places + 1) (Text.decimal d.digits)
    let whole := all.take (all.length - places)
    let part := ((all.drop (all.length - places)).reverse.dropWhile (· = '0')).reverse
    if part.isEmpty then whole else whole ++ '.' :: part

/-- The text of a number: the fewest digits, no exponent. -/
def render (x : Float) : List Char :=
  if x.isNaN then ['N', 'a', 'N']
  else
    let magnitude :=
      if x.isInf then ['i', 'n', 'f'] else (Binary.ofBits x.toBits).shortest.positional
    if x.toBits.toNat < UInt64.size / 2 then magnitude else '-' :: magnitude

end RuleTrace.Decimal
