/-!
# `RuleTrace.Correlation`: one id for one packet's traversal

Notifications of the same packet are told by a 32-bit hash of what
identifies the packet: the place of its buffer, its flow hash and its
ingress interface. The hash is the final mixing of a well-known
word-wise hash function; the number of words is folded into the seed.
Buffers are recycled, so an id means something only while the packet
is in flight.
-/

set_option autoImplicit false

namespace RuleTrace.Correlation

/-- A word rotated to the left by `k` bits, for `0 < k < 32`. -/
def rotate (x : UInt32) (k : UInt32) : UInt32 := (x <<< k) ||| (x >>> (32 - k))

/-- Mixes three words into one. -/
def mix (a b c : UInt32) : UInt32 :=
  let c := (c ^^^ b) - rotate b 14
  let a := (a ^^^ c) - rotate c 11
  let b := (b ^^^ a) - rotate a 25
  let c := (c ^^^ b) - rotate b 16
  let a := (a ^^^ c) - rotate c 4
  let b := (b ^^^ a) - rotate a 14
  (c ^^^ b) - rotate b 24

/-- The arbitrary constant in every seed. -/
def seedBase : UInt32 := 0xdeadbeef

/-- The seed of a hash over `words` words. -/
def seed (words initial : UInt32) : UInt32 := initial + seedBase + (words <<< 2)

/-- The hash of three words. -/
def hash3 (a b c initial : UInt32) : UInt32 :=
  let s := seed 3 initial
  mix (a + s) (b + s) (c + s)

/-- The hash of two words. -/
def hash2 (a b initial : UInt32) : UInt32 :=
  let s := seed 2 initial
  mix (a + s) (b + s) s

/-- The exclusive or of a word's two halves. -/
def fold (v : UInt64) : UInt32 := (v ^^^ (v >>> 32)).toUInt32

/-- The correlation id of a packet. -/
def traceId (identity : UInt64) (flowHash ingress : UInt32) : UInt32 :=
  hash2 (fold identity) flowHash ingress

end RuleTrace.Correlation
