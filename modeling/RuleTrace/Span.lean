/-!
# `RuleTrace.Span`: lengths of time

A span is a whole number of nanoseconds. Where a span has to fit a
64-bit counter of nanoseconds it saturates (`Span.saturated`): about
584 years stand for every longer span.
-/

set_option autoImplicit false

namespace RuleTrace

/-- A length of time. -/
structure Span where
  nanos : Nat
  deriving DecidableEq, Repr, Inhabited

namespace Span

/-- Nanoseconds in a second. -/
def second : Nat := 1000000000

/-- Nanoseconds in a millisecond. -/
def millisecond : Nat := 1000000

def zero : Span := ⟨0⟩

/-- Whole seconds and nanoseconds together. -/
def ofParts (seconds nanos : Nat) : Span := ⟨seconds * second + nanos⟩

def ofMillis (n : Nat) : Span := ⟨n * millisecond⟩

/-- The whole seconds of a span. -/
def seconds (d : Span) : Nat := d.nanos / second

/-- The nanoseconds beyond the whole seconds. -/
def subsecond (d : Span) : Nat := d.nanos % second

/-- Whether the span is empty. -/
def isZero (d : Span) : Bool := d.nanos == 0

/-- The span in a 64-bit word of nanoseconds, at most the greatest
one. -/
def saturated (d : Span) : UInt64 :=
  if d.nanos < UInt64.size then UInt64.ofNat d.nanos else UInt64.ofNat (UInt64.size - 1)

/-- The span that a word of nanoseconds counts. -/
def ofWord (w : UInt64) : Span := ⟨w.toNat⟩

end Span

end RuleTrace
