import RuleTrace.Config.Basic
import RuleTrace.Notification.ToRecord
import RuleTrace.Outlet
import RuleTrace.Sampler
import RuleTrace.Settings

/-!
# `RuleTrace.Pipeline.Basic`: from notifications to the reader

A pipeline is everything between the packet filter and the reader of
the output: sampler, settings, the slots of the cores, the output with
its counters. `Pipeline.trace` handles one notification to its end:

* a notification that is no rule match is counted and dropped;
* the sampler decides whether a rule match is kept;
* while aggregation is on, the record goes to the slot of its core;
* a record that cannot be aggregated goes straight to the output, and
  one that the output does not take is counted as dropped.

A pipeline that starts with interval zero has no slots and one lane;
any other has one lane for each core.
-/

set_option autoImplicit false

namespace RuleTrace

/-- What became of a notification. -/
inductive Outcome where
  | filtered
  | sampledOut
  /-- sent to the output -/
  | emitted
  /-- not taken by the output -/
  | dropped
  /-- stored as a new record -/
  | aggregated
  /-- added to a stored record -/
  | merged
  deriving DecidableEq, Repr

/-- Everything between the packet filter and the reader. -/
structure Pipeline where
  settings : Settings
  sampler : Sampler
  slots : Option Aggregation
  outlet : Outlet
  /-- most records flushed in one pass -/
  batch : Nat
  cores : Nat

namespace Pipeline

/-- Whether a pipeline can have the capacities of a configuration. -/
def isPossible (c : Config) : Bool :=
  if c.isAggregating then
    Aggregation.isPossible c.storeCapacity c.queueCapacity && c.laneCapacity ≤ Lane.greatestCapacity
  else c.directCapacity ≤ Lane.greatestCapacity

/-- A pipeline for a number of cores. -/
def new (c : Config) (cores : Nat) : Pipeline :=
  let cores := max cores 1
  let base : Pipeline :=
    { settings := .initial c.rate c.interval c.attempts
      sampler := .fresh
      slots := none
      outlet := ⟨.new .direct cores c.directCapacity, .zero⟩
      batch := max c.flushBatch 1
      cores := cores }
  if c.isAggregating then
    { base with
      slots := some (.new cores c.storeCapacity c.queueCapacity c.attempts)
      outlet := ⟨.new .multiplexed cores c.laneCapacity, .zero⟩ }
  else base

/-- The pipeline with one counter grown by one. -/
def bump (p : Pipeline) (k : Counter) : Pipeline := { p with outlet := p.outlet.bump k }

/-- Sends a record straight to the output. -/
def emitDirect (p : Pipeline) (core : Nat) (r : Record) : Outcome × Pipeline :=
  match p.outlet.publish core r with
  | (.ok (), outlet) => (.emitted, { p with outlet := outlet.bump .directEmitted })
  | (.error _, outlet) => (.dropped, { p with outlet := outlet })

/-- Goes on after a record was offered to its slot. -/
def afterAbsorb (p : Pipeline) (core : Nat) : Absorbed → Outcome × Pipeline
  | .merged _ => (.merged, p.bump .merged)
  | .queued => (.aggregated, p.bump .aggregated)
  | .fallback .contended r => ((p.bump .writeWait).bump .lockContended).emitDirect core r
  | .fallback _ r => (p.bump .writeWait).emitDirect core r

/-- Aggregates a record, or sends it to the output. -/
def deliver (p : Pipeline) (core : Nat) (r : Record) : Outcome × Pipeline :=
  match p.slots with
  | some slots =>
    if p.settings.enabled then
      let (result, slots) := slots.absorb core r
      { p with slots := some slots }.afterAbsorb core result
    else p.emitDirect core r
  | none => p.emitDirect core r

/-- Handles one notification that comes on a core at time `now`. -/
def trace (p : Pipeline) (core : Nat) (n : Notification) (now : UInt64) : Outcome × Pipeline :=
  if n.eventKind ≠ EventKind.rule.code then (.filtered, p.bump .filtered)
  else
    let p := p.bump .packetsSeen
    let (kept, sampler) := p.sampler.next p.settings.rate
    let p := { p with sampler := sampler }
    if kept then p.deliver core (n.toRecord now) else (.sampledOut, p.bump .sampledOut)

/-- One bounded flush pass over a core; nothing without slots. -/
def flushCore (p : Pipeline) (core : Nat) : DrainReport × Pipeline :=
  match p.slots with
  | none => (default, p)
  | some slots =>
    let (report, slots, outlet) := Outlet.flushCore slots p.outlet p.batch core
    (report, { p with slots := some slots, outlet := outlet })

/-- Hands on the oldest record of a core, which is what a pass does with
each record of its batch. -/
def offer (p : Pipeline) (core : Nat) : Pipeline :=
  { ({ p with batch := 1 }.flushCore core).2 with batch := p.batch }

/-- The pipeline while the locks of some cores are held by others. -/
def withCoreLocks (p : Pipeline) (held : Nat → Bool) : Pipeline :=
  { p with slots := p.slots.map fun a => a.withLocks held }

/-- Flushes everything that is stored; the number of records. -/
def drainAll (p : Pipeline) : Nat × Pipeline :=
  match p.slots with
  | none => (0, p)
  | some slots =>
    let (emitted, slots, outlet) := Outlet.drainAll slots p.outlet p.batch
    (emitted, { p with slots := some slots, outlet := outlet })

/-- How much is stored. -/
def occupancy (p : Pipeline) : Occupancy :=
  match p.slots with
  | none => default
  | some slots => slots.occupancy

/-- Changes both settings, or nothing. -/
def update (p : Pipeline) (rate : UInt64) (interval : Span) :
    Except SettingsError Unit × Pipeline :=
  let (result, settings) := p.settings.update rate interval
  (result, { p with settings := settings })

def mode (p : Pipeline) : OutputMode := p.outlet.channel.mode

def counters (p : Pipeline) : Counters := p.outlet.counters

/-- The pipeline with another channel. -/
def withChannel (p : Pipeline) (c : Channel) : Pipeline :=
  { p with outlet := { p.outlet with channel := c } }

/-- The reader takes the next record without waiting. -/
def tryReceive? (p : Pipeline) : Option (Record × Pipeline) :=
  p.outlet.channel.tryReceive?.map fun (r, c) => (r, p.withChannel c)

/-- The reader looks for a record as one that could wait. -/
def poll (p : Pipeline) : Poll (Record × Pipeline) :=
  match p.outlet.channel.poll with
  | .ready (r, c) => .ready (r, p.withChannel c)
  | .pending => .pending
  | .ended => .ended

/-- The reader takes all records that wait. -/
def receiveAll (p : Pipeline) : List Record × Pipeline :=
  let (records, c) := p.outlet.channel.drain
  (records, p.withChannel c)

/-- The reader closes the lanes. -/
def close (p : Pipeline) : Pipeline := p.withChannel p.outlet.channel.close

end Pipeline

end RuleTrace
