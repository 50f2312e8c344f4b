/-!
# `RuleTrace.Octets`: byte strings of a fixed length

Hardware addresses, protocol addresses and the buffers of names are
byte strings whose length is part of their type. This module holds
that type, the bounds-checked read of such a string out of a longer
one, and the big-endian reading of two octets as a number.

`slice?` is the only way in which a packet snapshot is read: it
answers `none` as soon as one octet of the wanted range lies past
the end.
-/

set_option autoImplicit false

namespace RuleTrace

/-- A string of exactly `n` octets. -/
structure Octets (n : Nat) where
  bytes : List UInt8
  length_bytes : bytes.length = n
  deriving DecidableEq, Repr

namespace Octets

variable {n : Nat}

/-- Two strings of one length are equal when their octets are. -/
@[ext] theorem ext {a b : Octets n} (h : a.bytes = b.bytes) : a = b := by
  cases a
  cases b
  simp_all

/-- The string of `n` zero octets. -/
def zero (n : Nat) : Octets n := ⟨List.replicate n 0, List.length_replicate⟩

instance : Inhabited (Octets n) := ⟨zero n⟩

/-- The first `n` octets of `bs`, filled up with zeros where `bs` is
shorter. -/
def padded (n : Nat) (bs : List UInt8) : Octets n :=
  ⟨(bs ++ List.replicate n 0).take n, by
    simp only [List.length_take, List.length_append, List.length_replicate]
    omega⟩

/-- Whether every octet is zero. -/
def isZero (o : Octets n) : Bool := o.bytes.all (· == 0)

/-- The `n` octets of `data` from `offset` on, when none of them lies
past the end. -/
def slice? (data : List UInt8) (offset n : Nat) : Option (Octets n) :=
  let part := (data.drop offset).take n
  if h : part.length = n then some ⟨part, h⟩ else none

/-- The octets read as one number, most significant first. -/
def toNat (o : Octets n) : Nat := o.bytes.foldl (fun acc b => 256 * acc + b.toNat) 0

/-- Two octets as a 16-bit word, most significant first. -/
def toWord (o : Octets 2) : UInt16 := UInt16.ofNat o.toNat

/-- A 16-bit word as two octets, most significant first. -/
def ofWord (w : UInt16) : Octets 2 :=
  ⟨[UInt8.ofNat (w.toNat / 256), UInt8.ofNat (w.toNat % 256)], rfl⟩

end Octets

end RuleTrace
