import RuleTrace.Octets
import RuleTrace.Text.Utf8

/-!
# `RuleTrace.Record.FixedName`: names in buffers of a fixed size

Tables, chains and interfaces have names in buffers of fixed size,
ended by a zero octet. A name that is too long is cut so that the
last octet of the buffer stays zero. Only the octets before the first
zero belong to the name; what is written after them never shows.
-/

set_option autoImplicit false

namespace RuleTrace

/-- A buffer of `n` octets that holds a name. -/
structure FixedName (n : Nat) where
  buffer : Octets n
  deriving DecidableEq, Repr

namespace FixedName

variable {n : Nat}

/-- The empty name. -/
def empty (n : Nat) : FixedName n := ⟨.zero n⟩

instance : Inhabited (FixedName n) := ⟨empty n⟩

/-- The name spelled by `source` up to its first zero octet, cut to
one octet less than the buffer. -/
def ofBytes (n : Nat) (source : List UInt8) : FixedName n :=
  ⟨.padded n ((source.takeWhile (· != 0)).take (n - 1))⟩

/-- The name spelled by a text. -/
def ofString (n : Nat) (source : String) : FixedName n :=
  ofBytes n (Text.Utf8.encode source.toList)

/-- The whole buffer. -/
def raw (name : FixedName n) : List UInt8 := name.buffer.bytes

/-- The octets of the name. -/
def bytes (name : FixedName n) : List UInt8 := name.raw.takeWhile (· != 0)

/-- Whether the name has no octets, told by the first octet of the
buffer alone. -/
def isEmpty (name : FixedName n) : Bool := name.raw.head?.all (· == 0)

/-- The name as text. -/
def text (name : FixedName n) : List Char := Text.Utf8.decodeLossy name.bytes

end FixedName

end RuleTrace
