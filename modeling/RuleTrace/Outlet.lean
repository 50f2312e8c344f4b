import RuleTrace.Aggregation.Basic
import RuleTrace.Counters
import RuleTrace.Output.Channel

/-!
# `RuleTrace.Outlet`: the output with its counters

An outlet is the output channel together with the counters. A record
that the channel does not accept is gone and counted. Flushing moves
records from the slots of a core to the outlet, one bounded pass at a
time, or all of them (`Outlet.drainAll`), core by core.
-/

set_option autoImplicit false

namespace RuleTrace

/-- The output channel and the counters. -/
structure Outlet where
  channel : Channel
  counters : Counters
  deriving DecidableEq, Repr

namespace Outlet

/-- The outlet with one counter grown by one. -/
def bump (o : Outlet) (k : Counter) : Outlet := { o with counters := o.counters.bump k }

/-- Offers a record to the channel. -/
def publish (o : Outlet) (core : Nat) (r : Record) : Except PublishError Unit × Outlet :=
  match o.channel.publish core r with
  | .ok channel => (.ok (), { o with channel := channel })
  | .error e => (.error e, o.bump .outputDropped)

/-- Offers a flushed record to the channel. -/
def publishFlushed (core : Nat) (o : Outlet) (r : Record) : Outlet :=
  match o.publish core r with
  | (.ok (), o) => o.bump .flushed
  | (.error _, o) => o

/-- Counts the ids whose record was gone. -/
def countMissed (o : Outlet) (missed : Nat) : Outlet :=
  { o with counters := o.counters.add .flushMiss (UInt64.ofNat missed) }

/-- One pass of at most `batch` records from a core to the outlet. A
core whose lock is not to be had is left for later. -/
def flushCore (a : Aggregation) (o : Outlet) (batch core : Nat) :
    DrainReport × Aggregation × Outlet :=
  match a.drain core batch with
  | (.ok (records, report), a) =>
    (report, a, (records.foldl (publishFlushed core) o).countMissed report.missed)
  | (.error _, a) => (default, a, (o.bump .readWait).bump .lockContended)

/-- Passes over one core until none is left or a pass does nothing, at
most `fuel` of them; the number of records taken out. -/
def drainCore (batch core : Nat) : Nat → Aggregation → Outlet → Nat × Aggregation × Outlet
  | 0, a, o => (0, a, o)
  | fuel + 1, a, o =>
    let (report, a, o) := flushCore a o batch core
    if report.remaining = 0 ∨ report.emitted + report.missed = 0 then (report.emitted, a, o)
    else
      let (emitted, a, o) := drainCore batch core fuel a o
      (report.emitted + emitted, a, o)

/-- The number of ids that wait on a core. -/
def pendingOn (a : Aggregation) (core : Nat) : Nat :=
  ((a.cores.get? core).map (·.value.pending.size)).getD 0

/-- Drains all given cores. A pass that does not end the work takes at
least one id, so a core needs no more passes than ids wait there, and
one. -/
def drainCores (batch : Nat) : List Nat → Aggregation → Outlet → Nat × Aggregation × Outlet
  | [], a, o => (0, a, o)
  | core :: rest, a, o =>
    let (n, a, o) := drainCore batch core (pendingOn a core + 1) a o
    let (m, a, o) := drainCores batch rest a o
    (n + m, a, o)

/-- Drains all cores in order. -/
def drainAll (a : Aggregation) (o : Outlet) (batch : Nat) : Nat × Aggregation × Outlet :=
  drainCores batch (List.range a.coreCount) a o

end Outlet

end RuleTrace
