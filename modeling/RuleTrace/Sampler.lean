/-!
# `RuleTrace.Sampler`: keeping every n-th rule match

A sampler counts the rule matches it is asked about while the rate is
not zero, and keeps those at which the count is a multiple of the
rate. The match at which the count leaves zero is never kept, whatever
the rate; rate zero keeps everything and does not count.

The count is a 64-bit word. When it wraps to zero the next match is
treated as the first one again.
-/

set_option autoImplicit false

namespace RuleTrace

/-- A sampler: how many matches it has counted. -/
structure Sampler where
  count : UInt64
  deriving DecidableEq, Repr, Inhabited

namespace Sampler

/-- A sampler that has counted nothing. -/
def fresh : Sampler := ⟨0⟩

/-- Whether the next match is kept at this rate, and the sampler after
it. -/
def next (s : Sampler) (rate : UInt64) : Bool × Sampler :=
  if rate = 0 then (true, s)
  else if s.count = 0 then (false, ⟨1⟩)
  else
    let n := s.count + 1
    (n % rate == 0, ⟨n⟩)

end Sampler

end RuleTrace
