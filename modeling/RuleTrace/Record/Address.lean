import RuleTrace.Octets
import RuleTrace.Text.Numeral

/-!
# `RuleTrace.Record.Address`: hardware and protocol addresses as text

Hardware addresses are written as six pairs of hexadecimal digits.
Protocol addresses follow the usual conventions: four decimal numbers
for the short form; for the long form eight hexadecimal groups, of
which the first longest run of two or more zero groups is left out,
except that an address that stands for a short one shows it in
decimal.
-/

set_option autoImplicit false

namespace RuleTrace

/-- A hardware address. -/
abbrev Mac := Octets 6

/-- The texts joined by a character. -/
def joinWith (sep : Char) : List (List Char) → List Char
  | [] => []
  | [s] => s
  | s :: rest => s ++ sep :: joinWith sep rest

/-- The text of a hardware address. -/
def Mac.text (m : Mac) : List Char := joinWith ':' (m.bytes.map fun b => Text.hex 2 b.toNat)

/-- A protocol address of either version. -/
inductive Address where
  | v4 (octets : Octets 4)
  | v6 (octets : Octets 16)
  deriving DecidableEq, Repr

namespace Address

/-- Four decimal numbers. -/
def dotted (bs : List UInt8) : List Char := joinWith '.' (bs.map fun b => Text.decimal b.toNat)

/-- The 16-bit groups of an octet string. -/
def groups : List UInt8 → List Nat
  | a :: b :: rest => (256 * a.toNat + b.toNat) :: groups rest
  | _ => []

/-- The length of the run of zeros at the start. -/
def zeroRun (gs : List Nat) : Nat := (gs.takeWhile (· == 0)).length

/-- Start and length of the first longest run of zeros. -/
def longestZeroRun (gs : List Nat) : Nat × Nat :=
  (List.range gs.length).foldl (fun best i =>
    let run := zeroRun (gs.drop i)
    if best.2 < run then (i, run) else best) (0, 0)

/-- Groups in hexadecimal, joined by colons. -/
def coloned (gs : List Nat) : List Char := joinWith ':' (gs.map (Text.hex 1))

/-- Eight groups, the first longest run of zeros left out. -/
def compressed (gs : List Nat) : List Char :=
  let (start, run) := longestZeroRun gs
  if 1 < run then coloned (gs.take start) ++ ':' :: ':' :: coloned (gs.drop (start + run))
  else coloned gs

/-- Whether the long form stands for a short address: ten zero octets
and two of all ones lead it. -/
def isMapped (bs : List UInt8) : Bool := bs.take 12 == List.replicate 10 0 ++ [0xff, 0xff]

/-- The text of an address. -/
def text : Address → List Char
  | v4 o => dotted o.bytes
  | v6 o =>
    if isMapped o.bytes then "::ffff:".toList ++ dotted (o.bytes.drop 12)
    else compressed (groups o.bytes)

end Address

end RuleTrace
