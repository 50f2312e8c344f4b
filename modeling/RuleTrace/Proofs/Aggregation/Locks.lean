import RuleTrace.Proofs.Aggregation.Cores

/-!
# `RuleTrace.Proofs.Aggregation.Locks`: slots whose locks others hold

Whoever finds the lock of a core held by somebody else does nothing on
this core and is told so. Otherwise it makes no difference which locks
are held: the operation does what it does while all are free
(`onSlot_withLocks`). So what is known of slots with free locks
(`Aggregation.Sound`) says what happens in any state of the locks.
-/

set_option autoImplicit false

namespace RuleTrace

namespace PerCore

variable {α : Type}

/-- Each value is changed in its place. -/
theorem get?_mapIdx (t : PerCore α) (f : Nat → α → α) (core : Nat) :
    (t.mapIdx f).get? core = (t.get? core).map (f core) := List.getElem?_mapIdx

/-- A value that is set is changed like the others. -/
theorem mapIdx_set (t : PerCore α) (f : Nat → α → α) (core : Nat) (value : α) :
    (t.set core value).mapIdx f = (t.mapIdx f).set core (f core value) :=
  eq_of_slots List.mapIdx_set

end PerCore

/-- Without an attempt, or while somebody else holds it, no lock is
had. -/
theorem Guarded.withLock_of_not {α β : Type} {attempts : Nat} {held : Bool}
    (h : ¬ (0 < attempts ∧ held = false)) {value : α} (operation : α → β × α) :
    Guarded.withLock ⟨⟨held⟩, value⟩ attempts operation
      = (.error ⟨attempts⟩, ⟨⟨held⟩, value⟩) := by
  simp only [withLock, acquire, Lock.acquire, h, if_false]
  rfl

namespace Aggregation

variable {storeCapacity queueCapacity : Nat} {a : Aggregation}

/-- Others that hold locks take no slot away. -/
@[simp] theorem coreCount_withLocks (a : Aggregation) (held : Nat → Bool) :
    (a.withLocks held).coreCount = a.coreCount := List.length_mapIdx

/-- The slot of a core is as it was, up to its lock. -/
theorem get?_withLocks (a : Aggregation) (held : Nat → Bool) (core : Nat) :
    (a.withLocks held).cores.get? core
      = (a.cores.get? core).map fun g => { g with lock := ⟨held core⟩ } :=
  a.cores.get?_mapIdx _ core

/-- Only the last state of the locks matters. -/
theorem withLocks_withLocks (a : Aggregation) (held others : Nat → Bool) :
    (a.withLocks held).withLocks others = a.withLocks others :=
  congrArg (fun t => ({ a with cores := t } : Aggregation)) (PerCore.eq_of_slots List.mapIdx_mapIdx)

/-- The locks have no part in the rosters. -/
@[simp] theorem roster_withLocks (a : Aggregation) (held : Nat → Bool) (core : Nat) :
    (a.withLocks held).roster core = a.roster core := by
  rw [roster, roster, get?_withLocks]
  cases a.cores.get? core <;> rfl

/-- Nor in what is stored. -/
@[simp] theorem stored_withLocks (a : Aggregation) (held : Nat → Bool) :
    (a.withLocks held).stored = a.stored := by
  have hroster : (a.withLocks held).roster = a.roster := funext (a.roster_withLocks held)
  rw [stored_eq_flatMap_roster, stored_eq_flatMap_roster, coreCount_withLocks, hroster]

/-- Sound slots are those whose locks nobody holds. -/
theorem Sound.withLocks_free (h : a.Sound storeCapacity queueCapacity) :
    a.withLocks (fun _ => false) = a := by
  refine congrArg (fun t => ({ a with cores := t } : Aggregation))
    (PerCore.eq_of_slots (List.ext_getElem? fun core => ?_))
  rw [show a.cores.slots[core]? = a.cores.get? core from rfl]
  refine (a.get?_withLocks _ core).trans ?_
  by_cases hcore : core < a.coreCount
  · rw [h.slot core hcore]
    rfl
  · rw [PerCore.get?_eq_none (Nat.le_of_not_lt hcore)]
    rfl

/-- A slot behind a free lock is set as it is while other locks are
held. -/
theorem setSlot_withLocks (a : Aggregation) {held : Nat → Bool} {core : Nat}
    (hfree : held core = false) (s : Slot) :
    (a.setSlot core s).withLocks held = (a.withLocks held).setSlot core s := by
  rw [setSlot, setSlot, withLocks, PerCore.mapIdx_set, hfree]
  rfl

/-- An operation runs under the lock of its slot. -/
theorem onSlot_of_get? {α : Type} {core : Nat} {g : Guarded Slot}
    (hg : a.cores.get? core = some g) (operation : Slot → α × Slot) :
    a.onSlot core operation
      = (some (g.withLock a.attempts operation).1,
        { a with cores := a.cores.set core (g.withLock a.attempts operation).2 }) := by
  rw [onSlot, hg]

/-- An operation is told that the lock is held, or it does what it does
while all locks are free. -/
theorem Sound.onSlot_withLocks {α : Type} (h : a.Sound storeCapacity queueCapacity)
    (held : Nat → Bool) (core : Nat) (operation : Slot → α × Slot) :
    (a.withLocks held).onSlot core operation
      = ((a.onSlot core operation).1, (a.onSlot core operation).2.withLocks held) ∨
    (a.withLocks held).onSlot core operation
      = (some (.error ⟨a.attempts⟩), a.withLocks held) := by
  by_cases hcore : core < a.coreCount
  · by_cases hreach : 0 < a.attempts ∧ held core = false
    · -- The lock is had, and it is free again afterwards.
      have hlocked : (a.withLocks held).cores.get? core
          = some (.new (.ofRoster storeCapacity queueCapacity (a.roster core))) := by
        rw [get?_withLocks, h.slot core hcore, hreach.2]
        rfl
      refine .inl ?_
      rw [h.onSlot_eq hcore hreach.1, setSlot_withLocks a hreach.2, onSlot_of_get? hlocked,
        Guarded.withLock_new (show 0 < (a.withLocks held).attempts from hreach.1)]
      rfl
    · -- The lock is not had, and the slot stays as it is.
      have hlocked : (a.withLocks held).cores.get? core
          = some ⟨⟨held core⟩, .ofRoster storeCapacity queueCapacity (a.roster core)⟩ := by
        rw [get?_withLocks, h.slot core hcore]
        rfl
      refine .inr ?_
      rw [onSlot_of_get? hlocked, Guarded.withLock_of_not
        (show ¬ (0 < (a.withLocks held).attempts ∧ held core = false) from hreach),
        PerCore.set_of_get? hlocked]
      rfl
  · have hnone := PerCore.get?_eq_none (t := a.cores) (Nat.le_of_not_lt hcore)
    refine .inl ?_
    rw [onSlot, onSlot, get?_withLocks, hnone]
    rfl

/-- A record is handed back because of the lock, or it is absorbed as
while all locks are free. -/
theorem Sound.absorb_withLocks (h : a.Sound storeCapacity queueCapacity) (held : Nat → Bool)
    (core : Nat) (r : Record) :
    (a.withLocks held).absorb core r = ((a.absorb core r).1, (a.absorb core r).2.withLocks held) ∨
    (a.withLocks held).absorb core r = (.fallback .contended r, a.withLocks held) := by
  rcases h.onSlot_withLocks held core (·.absorb r) with he | he
  · refine .inl (Prod.ext ?_ ?_)
    · rw [fst_absorb, fst_absorb, he]
    · rw [snd_absorb, snd_absorb, he]
  · refine .inr (Prod.ext ?_ ?_)
    · rw [fst_absorb, he]
    · rw [snd_absorb, he]

/-- A pass fails because of the lock, or it takes out what it takes out
while all locks are free. -/
theorem Sound.drain_withLocks (h : a.Sound storeCapacity queueCapacity) (held : Nat → Bool)
    (core max : Nat) :
    (a.withLocks held).drain core max
      = ((a.drain core max).1, (a.drain core max).2.withLocks held) ∨
    (a.withLocks held).drain core max = (.error ⟨a.attempts⟩, a.withLocks held) := by
  rcases h.onSlot_withLocks held core (·.drain max) with he | he
  · refine .inl (Prod.ext ?_ ?_)
    · rw [fst_drain, fst_drain, he]
    · rw [snd_drain, snd_drain, he]
  · refine .inr (Prod.ext ?_ ?_)
    · rw [fst_drain, he]
      rfl
    · rw [snd_drain, he]

end Aggregation

end RuleTrace
