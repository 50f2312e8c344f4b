import RuleTrace.Aggregation.Basic

/-!
# `RuleTrace.Aggregation.Nested`: using the slots during a drain pass

Whoever receives the records of a drain pass may use the same slots
again, while the lock of the core that is drained is still held. A
`Call` says what is done; a pass says which calls are made for each
record that it takes out. `Call.run` runs a call on the slots.

The lock of the drained core keeps nested calls away from that core,
so the pass takes out what it would have taken out without them.
-/

set_option autoImplicit false

namespace RuleTrace.Aggregation

/-- A use of the slots. -/
inductive Call where
  | absorb (core : Nat) (record : Record)
  /-- one drain pass, with the calls that are made for a record -/
  | pass (core max : Nat) (nested : Record → List Call)
  | occupancy
  deriving Inhabited

/-- A drain pass that makes the same calls for each record. -/
def Call.drain (core max : Nat) (nested : List Call) : Call := .pass core max fun _ => nested

/-- The answer to a call. -/
inductive Reply where
  | absorbed (result : Absorbed)
  /-- the report of a drain pass, its records, and the answers to the
  calls that were made for them, in order -/
  | drained (report : DrainReport) (records : List Record) (nested : List Reply)
  | contended (cause : Contended)
  | occupancy (o : Occupancy)

/-- What is done with the slots for one record. -/
abbrev Handler := Record → Aggregation → List Reply × Aggregation

/-- Changes the slot of a core, whose lock the caller holds. -/
def modifySlot (a : Aggregation) (core : Nat) (f : Guarded Slot → Guarded Slot) : Aggregation :=
  match a.cores.get? core with
  | none => a
  | some g => { a with cores := a.cores.set core (f g) }

/-- The records taken out by a pass so far, the missed ids, and the
answers of the handler. -/
structure Progress where
  records : List Record
  missed : Nat
  replies : List Reply

/-- Takes out up to `max` ids of a core whose lock is held, and runs
the handler for each record. -/
def drainHeld (core : Nat) (handler : Handler) : Nat → Aggregation → Progress × Aggregation
  | 0, a => (⟨[], 0, []⟩, a)
  | max + 1, a =>
    match (a.cores.get? core).bind (·.value.takeOldest?) with
    | none => (⟨[], 0, []⟩, a)
    | some (record, slot) =>
      let a := a.modifySlot core fun g => { g with value := slot }
      match record with
      | none =>
        let (p, a) := drainHeld core handler max a
        ({ p with missed := p.missed + 1 }, a)
      | some r =>
        let (replies, a) := handler r a
        let (p, a) := drainHeld core handler max a
        ({ p with records := r :: p.records, replies := replies ++ p.replies }, a)

/-- One drain pass that runs a handler for each record. -/
def drainWith (a : Aggregation) (core max : Nat) (handler : Handler) : Reply × Aggregation :=
  match a.cores.get? core with
  | none => (.drained default [] [], a)
  | some g =>
    match g.acquire a.attempts with
    | .error e => (.contended e, a)
    | .ok g =>
      let (p, a) := drainHeld core handler max { a with cores := a.cores.set core g }
      let remaining := ((a.cores.get? core).map (·.value.pending.size)).getD 0
      (.drained ⟨p.records.length, p.missed, remaining⟩ p.records p.replies,
        a.modifySlot core (·.release))

mutual

/-- Runs a call. -/
def Call.run : Call → Aggregation → Reply × Aggregation
  | .absorb core record, a =>
    let (result, a) := a.absorb core record
    (.absorbed result, a)
  | .pass core max nested, a => a.drainWith core max fun r => runAll (nested r)
  | .occupancy, a => (.occupancy a.occupancy, a)

/-- Runs calls one after another. -/
def runAll : List Call → Aggregation → List Reply × Aggregation
  | [], a => ([], a)
  | call :: calls, a =>
    let (reply, a) := call.run a
    let (replies, a) := runAll calls a
    (reply :: replies, a)

end

end RuleTrace.Aggregation
