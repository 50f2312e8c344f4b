import RuleTrace.Agent.Basic

/-!
# `RuleTrace.Agent.Action`: what a running agent does

The parts of a running agent act each in its own time: the recording
delivers, cores are flushed, at once or record by record, the printer
takes records or flushes its output, counters are exported, settings
change. `Agent.perform` does one of these things and `Agent.run` a list
of them, in any order. While a part does something, others may be about
something else and hold the locks of some cores: `Agent.take` does one
thing with the locks in some state, and `Agent.takeAll` a list of them.

`Agent.stop` brings the parts to rest in the order in which nothing is
lost: the recording ends, all slots are flushed, the output is closed
and what waits in it is printed, the printer writes the line that it
holds, and the counters are exported a last time. It does all this at
once, with nobody else at work; `RuleTrace.Agent.Stopping` does it step
by step.
-/

set_option autoImplicit false

namespace RuleTrace

/-- Something that a part of an agent does. -/
inductive Action where
  /-- the recording delivers its next item, at a time and on a
  processor -/
  | deliver (now : UInt64) (processor : Nat)
  /-- one flush pass over a core -/
  | flushCore (core : Nat)
  /-- a flush pass over a core hands on one of its records -/
  | offer (core : Nat)
  /-- the printer takes a record -/
  | print
  /-- the printer flushes its output -/
  | flushOutput
  /-- the growth of the counters is exported -/
  | report
  | reload (c : Config)

namespace Parts

/-- The parts while the locks of some cores are held by others. -/
def withCoreLocks (p : Parts) (held : Nat → Bool) : Parts :=
  { p with pipeline := p.pipeline.withCoreLocks held }

/-- The core that an event is delivered on. -/
def coreOf (p : Parts) (e : Event) (processor : Nat) : Nat :=
  Replay.coreOf e processor p.pipeline.cores

/-- Delivers what an item holds, if it is an event. -/
def deliverItem (p : Parts) (now : UInt64) (processor : Nat) : Replay.Item → Parts
  | .event e =>
    { p with pipeline := (p.pipeline.trace (p.coreOf e processor) e.notification now).2 }
  | _ => p

/-- Delivers the next item of the recording. -/
def deliver (p : Parts) (now : UInt64) (processor : Nat) : Parts :=
  match p.source with
  | none => p
  | some s =>
    match s.left with
    | [] => p
    | entry :: rest =>
      { p with
        source := some { s with left := rest, summary := s.summary.count entry.item }
      }.deliverItem now processor entry.item

/-- One flush pass over a core. -/
def flushCore (p : Parts) (core : Nat) : Parts :=
  { p with pipeline := (p.pipeline.flushCore core).2 }

/-- A flush pass over a core hands on one of its records. -/
def offer (p : Parts) (core : Nat) : Parts := { p with pipeline := p.pipeline.offer core }

/-- The printer flushes its output. -/
def flushOutput (p : Parts) (stamp : UInt64 → String) : Parts :=
  if p.printing then { p with printer := (p.printer.flush stamp).2 } else p

/-- Prints records until one is refused; how many were printed. -/
def printAll (stamp : UInt64 → String) : List Record → Printer → Nat × Printer
  | [], printer => (0, printer)
  | r :: rest, printer =>
    match printer.write stamp r with
    | (.error _, printer) => (0, printer)
    | (.ok (), printer) =>
      let (n, printer) := printAll stamp rest printer
      (n + 1, printer)

/-- A printer that was given up. -/
def givenUp (stamp : UInt64 → String) (printer : Printer) : Printer :=
  { printer with sink := printer.close stamp, held := none }

/-- The printer takes the next record; whether it printed it. A printer
that is refused takes no further one, and nothing more is accepted for
it. -/
def print (p : Parts) (stamp : UInt64 → String) : Bool × Parts :=
  if p.printing then
    match p.pipeline.tryReceive? with
    | none => (false, p)
    | some (r, pipeline) =>
      match p.printer.write stamp r with
      | (.ok (), printer) => (true, { p with pipeline := pipeline, printer := printer })
      | (.error _, printer) =>
        (false, { p with
          pipeline := pipeline.close
          printer := givenUp stamp printer
          printing := false })
  else (false, p)

/-- Closes the output and prints what waits in it; how many records. -/
def finishPrinting (p : Parts) (stamp : UInt64 → String) : Nat × Parts :=
  if p.printing then
    let (records, pipeline) := p.pipeline.close.receiveAll
    let (n, printer) := printAll stamp records p.printer
    let printer := givenUp stamp (printer.flush stamp).2
    (n, { p with pipeline := pipeline, printer := printer, printing := false })
  else (0, p)

/-- The number of records that wait for the printer. -/
def waiting (p : Parts) : Nat := p.pipeline.outlet.channel.buffered

end Parts

namespace Agent

/-- Something that a part does while others are at work, too.

Where a pass goes over a core after a slot there refused a record and
before the record is at the output, the record takes the way of one that
comes after the pass and finds the lock held. -/
structure Turn where
  /-- the cores of which somebody else holds the lock -/
  held : Nat → Bool
  action : Action

variable {ν : Type}

/-- Exports the growth of the counters, while they are exported. -/
def report (a : Arithmetic ν) (g : Agent ν) : Agent ν :=
  match g.parts with
  | some p =>
    if p.reporting then
      let now := p.pipeline.counters
      { g with
        parts := some { p with exported := now }
        metrics := (g.metrics.exportGrowth a now p.exported).setOccupancy a p.pipeline.occupancy }
    else g
  | none => g

/-- The agent with its parts changed, if it has any. -/
def withParts (g : Agent ν) (f : Parts → Parts) : Agent ν := { g with parts := g.parts.map f }

/-- The printer takes the next record and counts it. -/
def print (a : Arithmetic ν) (stamp : UInt64 → String) (g : Agent ν) : Agent ν :=
  match g.parts.map fun p => p.print stamp with
  | none => g
  | some (false, p) => { g with parts := some p }
  | some (true, p) => { g with parts := some p, metrics := g.metrics.addConsumed a 1 }

/-- Does one thing. -/
def perform (a : Arithmetic ν) (stamp : UInt64 → String) (g : Agent ν) : Action → Agent ν
  | .deliver now processor => g.withParts fun p => p.deliver now processor
  | .flushCore core => g.withParts fun p => p.flushCore core
  | .offer core => g.withParts fun p => p.offer core
  | .print => g.print a stamp
  | .flushOutput => g.withParts fun p => p.flushOutput stamp
  | .report => g.report a
  | .reload c => (g.reload a c).2

/-- Does one thing after another. -/
def run (a : Arithmetic ν) (stamp : UInt64 → String) (actions : List Action) (g : Agent ν) :
    Agent ν :=
  actions.foldl (perform a stamp) g

/-- The agent while the locks of some cores are held by others. -/
def withCoreLocks (g : Agent ν) (held : Nat → Bool) : Agent ν :=
  g.withParts fun p => p.withCoreLocks held

/-- Does one thing while others hold the locks of some cores, which they
give back then. -/
def take (a : Arithmetic ν) (stamp : UInt64 → String) (g : Agent ν) (t : Turn) : Agent ν :=
  ((g.withCoreLocks t.held).perform a stamp t.action).withCoreLocks fun _ => false

/-- Does one thing after another, each with the locks in some state. -/
def takeAll (a : Arithmetic ν) (stamp : UInt64 → String) (turns : List Turn) (g : Agent ν) :
    Agent ν :=
  turns.foldl (take a stamp) g

/-- Prints everything that waits. -/
def printWaiting (a : Arithmetic ν) (stamp : UInt64 → String) (g : Agent ν) : Agent ν :=
  g.run a stamp (List.replicate ((g.parts.map Parts.waiting).getD 0) .print)

/-- Brings all parts to rest while nobody else is at work. -/
def stop (a : Arithmetic ν) (stamp : UInt64 → String) (g : Agent ν) : Agent ν :=
  match g.parts with
  | none => { g with stopped := true }
  | some p =>
    let p := { p with
      source := none
      pipeline := p.pipeline.drainAll.2
      timetable := .empty p.timetable.now }
    let (n, p) := p.finishPrinting stamp
    let g := { g with parts := some p, metrics := g.metrics.addConsumed a n, stopped := true }
    (g.report a).withParts fun p => { p with reporting := false }

/-- The lines in the output once the printer is given up. -/
def output (stamp : UInt64 → String) (g : Agent ν) : List (List Char) :=
  match g.parts with
  | none => []
  | some p => (p.printer.close stamp).lines

end Agent

end RuleTrace
