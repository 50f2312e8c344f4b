import RuleTrace.Aggregation.Pending
import RuleTrace.Aggregation.Store

/-!
# `RuleTrace.Aggregation.Slot`: what one core aggregates

A slot is a store of records and the queue of their ids. A record with
a new id goes into both or into neither; a record with a known id
only adds to the count of the one that is stored. `Slot.drain` takes
records out in the order in which their ids came.
-/

set_option autoImplicit false

namespace RuleTrace

/-- Why a record was not aggregated. -/
inductive Fallback where
  /-- the core has no slot -/
  | noSlot
  /-- the slot's lock was not to be had -/
  | contended
  | storeFull
  | queueFull
  deriving DecidableEq, Repr

/-- What became of a record offered for aggregation. -/
inductive Absorbed where
  /-- it was added to a stored record, which now has this count -/
  | merged (count : UInt64)
  /-- it was stored and its id waits for the flush -/
  | queued
  /-- it was handed back -/
  | fallback (reason : Fallback) (record : Record)
  deriving DecidableEq, Repr

/-- What one drain pass did. -/
structure DrainReport where
  emitted : Nat
  /-- waiting ids whose record was gone -/
  missed : Nat
  /-- ids that still wait -/
  remaining : Nat
  deriving DecidableEq, Repr, Inhabited

/-- Store and queue of one core. -/
structure Slot where
  store : Store
  pending : Pending
  deriving DecidableEq, Repr

namespace Slot

/-- A slot without records. -/
def empty (storeCapacity queueCapacity : Nat) : Slot :=
  ⟨.empty storeCapacity, .empty queueCapacity⟩

/-- Stores a record with a new id and lets the id wait, or leaves the
slot as it was. -/
def storeNew (s : Slot) (r : Record) : Absorbed × Slot :=
  match s.store.insert r.id r with
  | .error _ => (.fallback .storeFull r, s)
  | .ok store =>
    match s.pending.push r.id with
    | .error _ => (.fallback .queueFull r, { s with store := store.erase r.id })
    | .ok pending => (.queued, ⟨store, pending⟩)

/-- Aggregates a record. -/
def absorb (s : Slot) (r : Record) : Absorbed × Slot :=
  match s.store.increment? r.id 1 with
  | some (count, store) => (.merged count, { s with store := store })
  | none => s.storeNew r

/-- Takes out the id that waits longest, with its record if there is
one. -/
def takeOldest? (s : Slot) : Option (Option Record × Slot) :=
  s.pending.pop?.map fun (id, pending) =>
    let (record, store) := s.store.take id
    (record, ⟨store, pending⟩)

/-- Takes out up to `max` ids; their records in order, the number of
ids without a record, and the slot after it. -/
def takeUpTo (s : Slot) : Nat → List Record × Nat × Slot
  | 0 => ([], 0, s)
  | max + 1 =>
    match s.takeOldest? with
    | none => ([], 0, s)
    | some (record, s) =>
      let (records, missed, s) := s.takeUpTo max
      match record with
      | some r => (r :: records, missed, s)
      | none => (records, missed + 1, s)

/-- One drain pass: the records taken out and the report on it. -/
def drain (s : Slot) (max : Nat) : (List Record × DrainReport) × Slot :=
  let (records, missed, s) := s.takeUpTo max
  ((records, ⟨records.length, missed, s.pending.size⟩), s)

end Slot

end RuleTrace
