import RuleTrace.Aggregation.Slot
import RuleTrace.Lock
import RuleTrace.PerCore

/-!
# `RuleTrace.Aggregation.Basic`: aggregation on all cores

Each core has a slot of its own behind a lock of its own. Whoever does
not get the lock goes on without: a record is handed back, a drain
pass fails, a count of what is stored leaves the core out.
-/

set_option autoImplicit false

namespace RuleTrace

/-- The slots of all cores. -/
structure Aggregation where
  cores : PerCore (Guarded Slot)
  /-- attempts allowed to get a lock -/
  attempts : Nat

/-- How much is stored on the cores whose lock was to be had. -/
structure Occupancy where
  stored : Nat
  pending : Nat
  contendedCores : Nat
  deriving DecidableEq, Repr, Inhabited

namespace Aggregation

/-- Whether slots can have such capacities. -/
def isPossible (storeCapacity queueCapacity : Nat) : Bool :=
  storeCapacity ≤ Store.greatestCapacity && queueCapacity ≤ Pending.greatestCapacity

/-- Empty slots for `cores` cores. -/
def new (cores storeCapacity queueCapacity attempts : Nat) : Aggregation where
  cores := .build cores fun _ => .new (.empty storeCapacity queueCapacity)
  attempts := attempts

/-- The number of slots. -/
def coreCount (a : Aggregation) : Nat := a.cores.size

/-- The slots while the locks of some cores are held by others. -/
def withLocks (a : Aggregation) (held : Nat → Bool) : Aggregation :=
  { a with cores := a.cores.mapIdx fun core g => { g with lock := ⟨held core⟩ } }

/-- Runs one operation on the slot of a core, under its lock. `none`
if there is no such slot. -/
def onSlot {α : Type} (a : Aggregation) (core : Nat) (operation : Slot → α × Slot) :
    Option (Except Contended α) × Aggregation :=
  match a.cores.get? core with
  | none => (none, a)
  | some g =>
    let (answer, g) := g.withLock a.attempts operation
    (some answer, { a with cores := a.cores.set core g })

/-- Aggregates a record on a core. -/
def absorb (a : Aggregation) (core : Nat) (r : Record) : Absorbed × Aggregation :=
  match a.onSlot core (·.absorb r) with
  | (none, a) => (.fallback .noSlot r, a)
  | (some (.error _), a) => (.fallback .contended r, a)
  | (some (.ok answer), a) => (answer, a)

/-- One drain pass over a core. -/
def drain (a : Aggregation) (core max : Nat) :
    Except Contended (List Record × DrainReport) × Aggregation :=
  match a.onSlot core (·.drain max) with
  | (none, a) => (.ok ([], default), a)
  | (some answer, a) => (answer, a)

/-- The occupancy with that of one more core. -/
def addOccupancy (attempts : Nat) (o : Occupancy) (g : Guarded Slot) : Occupancy :=
  match g.lock.acquire attempts with
  | .ok _ =>
    { o with stored := o.stored + g.value.store.size, pending := o.pending + g.value.pending.size }
  | .error _ => { o with contendedCores := o.contendedCores + 1 }

/-- How much is stored on all cores. -/
def occupancy (a : Aggregation) : Occupancy :=
  a.cores.slots.foldl (addOccupancy a.attempts) default

end Aggregation

end RuleTrace
