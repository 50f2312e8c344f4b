import RuleTrace.Record.Address
import RuleTrace.Text.Split

/-!
# `RuleTrace.Metrics.Host`: the address that names a host

A host is named by the word `localhost`, of whatever case, or by its
address. The short form of an address may be written loosely: as one to
four numbers with points between them, of which each but the last is
one octet and the last fills the octets that are left. The numbers are
decimal, hexadecimal after `0x`, or octal after another zero. So
`127.1` and `0x7f000001` are both the first loopback address.

The long form is written as groups of hexadecimal digits with colons
between them. Two colons stand for one or more groups of zeros, and the
last two groups may be written as a short address.
-/

set_option autoImplicit false

namespace RuleTrace.Host

/-- The last `count` octets of a number, most significant first. -/
def octets : Nat → Nat → List UInt8
  | 0, _ => []
  | count + 1, n => octets count (n / 256) ++ [UInt8.ofNat (n % 256)]

/-! ### The short form -/

/-- A number in one of the three notations. -/
def number? : List Char → Option Nat
  | '0' :: 'x' :: s => Text.natInBase? 16 s
  | '0' :: 'X' :: s => Text.natInBase? 16 s
  | '0' :: c :: s => Text.natInBase? 8 (c :: s)
  | s => Text.natInBase? 10 s

/-- The number of `width` octets that its parts make up. -/
def join? : Nat → List Nat → Option Nat
  | 0, _ => none
  | _ + 1, [] => none
  | width + 1, [n] => if n < Nat.pow 256 (width + 1) then some n else none
  | width + 1, n :: rest =>
    if n < 256 then (join? width rest).map (n * Nat.pow 256 width + ·) else none

/-- Reads the short form, loosely written. -/
def short? (s : List Char) : Option (Octets 4) :=
  (((Text.splitOn '.' s).mapM number?).bind (join? 4)).map fun n => .padded 4 (octets 4 n)

/-- Whether a text is a number below 256 with no more digits than it
needs. -/
def isPlainOctet (s : List Char) : Bool := (Text.nat? s).any fun n => n < 256 && Text.decimal n = s

/-- Reads the short form as four plain numbers. -/
def dotted? (s : List Char) : Option (Octets 4) :=
  let parts := Text.splitOn '.' s
  if parts.length = 4 ∧ parts.all isPlainOctet then short? s else none

/-! ### The long form -/

/-- The octets of a group, which has one to four digits. -/
def group? (s : List Char) : Option (List UInt8) :=
  if s.length ≤ 4 then (Text.natInBase? 16 s).map (octets 2) else none

/-- The octets of groups, of which the last may be a short address. -/
def groups? : List (List Char) → Option (List UInt8)
  | [] => some []
  | [s] => (group? s).or ((dotted? s).map Octets.bytes)
  | s :: rest => do return (← group? s) ++ (← groups? rest)

/-- The texts before and after the first two colons in a row. -/
def splitGap : List Char → Option (List Char × List Char)
  | ':' :: ':' :: s => some ([], s)
  | c :: s => (splitGap s).map fun (before, after) => (c :: before, after)
  | [] => none

/-- The octets on one side of two colons. -/
def side? (s : List Char) : Option (List UInt8) :=
  if s.isEmpty then some [] else groups? (Text.splitOn ':' s)

/-- The octets of the long form. -/
def longOctets? (s : List Char) : Option (List UInt8) :=
  match splitGap s with
  | none => (side? s).filter (·.length = 16)
  | some (before, after) => do
    let tail ← side? after
    let head ← if before.contains '.' then none else side? before
    if head.length + tail.length ≤ 14 then
      some (head ++ List.replicate (16 - head.length - tail.length) 0 ++ tail)
    else none

/-- Reads the long form. -/
def long? (s : List Char) : Option (Octets 16) := (longOctets? s).map (.padded 16)

/-! ### Hosts -/

/-- The first loopback address. -/
def loopback : Octets 4 := .padded 4 [127, 0, 0, 1]

/-- The address of a host. -/
def address? (s : List Char) : Option Address :=
  if s.map Char.toLower = "localhost".toList then some (.v4 loopback)
  else ((short? s).map .v4).or ((long? s).map .v6)

/-- Whether every machine has a short address: that of all interfaces,
those of the loopback, and those that are shared by many machines. -/
def isSharedShort (n : Nat) : Bool :=
  n = 0 || n / 0x1000000 = 127 || n / 0x10000000 = 14 || n = 0xffffffff

/-- Whether every machine has an address. -/
def isShared : Address → Bool
  | .v4 o => isSharedShort o.toNat
  | .v6 o =>
    if Address.isMapped o.bytes then isSharedShort (Octets.padded 4 (o.bytes.drop 12)).toNat
    else o.toNat ≤ 1

end RuleTrace.Host
