import RuleTrace.Aggregation.Basic
import RuleTrace.Counters
import RuleTrace.Span

/-!
# `RuleTrace.Metrics.Basic`: values for the outside

Metrics are what an observer outside may look at: totals that grow and
gauges that are set. How their values are computed with is left open
(`Arithmetic`): the server uses binary64 numbers, while statements
about totals are made for exact ones.

The counters of a pipeline are exported by their growth: what they grew
by since the last export is added to the totals
(`Metrics.exportGrowth`).
-/

set_option autoImplicit false

namespace RuleTrace

/-- A way to compute with the values of metrics. -/
structure Arithmetic (ν : Type) where
  ofNat : Nat → ν
  add : ν → ν → ν
  /-- the seconds of a span -/
  seconds : Span → ν

namespace Arithmetic

/-- The binary64 number nearest to a 64-bit word. -/
def nearest (n : Nat) : Float := (UInt64.ofNat n).toFloat

/-- Binary64 numbers; each step rounds. -/
def binary64 : Arithmetic Float where
  ofNat := nearest
  add := (· + ·)
  seconds d := nearest d.seconds + nearest d.subsecond / nearest Span.second

/-- Exact numbers. -/
def exact : Arithmetic Rat where
  ofNat n := (n : Rat)
  add := (· + ·)
  seconds d := (d.nanos : Rat) / (Span.second : Rat)

end Arithmetic

/-- The metrics of an agent. -/
structure Metrics (ν : Type) where
  /-- the total of each counter -/
  events : Vector ν 12
  /-- records written -/
  consumed : ν
  sampleRate : ν
  /-- the interval of aggregation in seconds -/
  interval : ν
  cores : ν
  stored : ν
  pending : ν

namespace Metrics

variable {ν : Type}

/-- All metrics at zero. -/
def zero (a : Arithmetic ν) : Metrics ν :=
  let z := a.ofNat 0
  ⟨.replicate 12 z, z, z, z, z, z, z⟩

/-- The total of one counter. -/
def total (m : Metrics ν) (k : Counter) : ν := m.events.get k.index

/-- A total after it grew. -/
def grow (a : Arithmetic ν) (total : ν) (growth : UInt64) : ν :=
  if growth = 0 then total else a.add total (a.ofNat growth.toNat)

/-- Adds the growth of all counters. -/
def addGrowth (m : Metrics ν) (a : Arithmetic ν) (growth : Counters) : Metrics ν :=
  { m with events := Vector.zipWith (grow a) m.events growth.values }

/-- Adds what the counters grew by since the last export. -/
def exportGrowth (a : Arithmetic ν) (m : Metrics ν) (now last : Counters) : Metrics ν :=
  m.addGrowth a (now.since last)

/-- Shows the settings in force. -/
def setSettings (a : Arithmetic ν) (m : Metrics ν) (rate : UInt64) (interval : Span) : Metrics ν :=
  { m with sampleRate := a.ofNat rate.toNat, interval := a.seconds interval }

/-- Shows how much is stored. -/
def setOccupancy (a : Arithmetic ν) (m : Metrics ν) (o : Occupancy) : Metrics ν :=
  { m with stored := a.ofNat o.stored, pending := a.ofNat o.pending }

/-- Shows the number of cores. -/
def setCores (a : Arithmetic ν) (m : Metrics ν) (cores : Nat) : Metrics ν :=
  { m with cores := a.ofNat cores }

/-- Counts records that were written. -/
def addConsumed (a : Arithmetic ν) (m : Metrics ν) (n : Nat) : Metrics ν :=
  { m with consumed := a.add m.consumed (a.ofNat n) }

end Metrics

end RuleTrace
