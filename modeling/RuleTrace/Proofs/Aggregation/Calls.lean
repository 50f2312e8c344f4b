import RuleTrace.Proofs.Aggregation.Cores

/-!
# `RuleTrace.Proofs.Aggregation.Calls`: any sequence of calls on one core

A core is used by absorbing records and by draining, in any order
(`SlotCall`). The same calls can be made on a roster.
`afterCalls_eq_setRoster` is the simulation: from fresh slots, the calls
on a core leave fresh slots but for that core, which holds what the
calls make of the empty roster. `slot_behaves_as_roster` reads off what
the slot contains and what it answers to the next call. Calls on all
cores, in any order, keep the slots sound (`Sound.afterUses`).
-/

set_option autoImplicit false

namespace RuleTrace

/-- A use of the slot of a core. -/
inductive SlotCall where
  | absorb (r : Record)
  | drain (max : Nat)

namespace SlotCall

/-- The slots after a call on a core. -/
def onCore (core : Nat) (a : Aggregation) : SlotCall → Aggregation
  | absorb r => (a.absorb core r).2
  | drain max => (a.drain core max).2

/-- A roster after a call. -/
def onRoster (storeCapacity queueCapacity : Nat) (l : Roster) : SlotCall → Roster
  | absorb r => (l.absorb storeCapacity queueCapacity r).2
  | drain max => (l.drain max).2

end SlotCall

/-- The slots after calls on a core. -/
def Aggregation.afterCalls (a : Aggregation) (core : Nat) (calls : List SlotCall) : Aggregation :=
  calls.foldl (SlotCall.onCore core) a

/-- What calls make of the empty roster. -/
def Roster.afterCalls (storeCapacity queueCapacity : Nat) (calls : List SlotCall) : Roster :=
  calls.foldl (SlotCall.onRoster storeCapacity queueCapacity) []

namespace Aggregation

/-- The slots after calls on any cores. -/
def afterUses (a : Aggregation) (uses : List (Nat × SlotCall)) : Aggregation :=
  uses.foldl (fun a use => use.2.onCore use.1 a) a

variable {storeCapacity queueCapacity : Nat}

/-- Calls do not bring a core into reach or out of it. -/
theorem reaches_afterCalls {a : Aggregation} {core other : Nat} {calls : List SlotCall} :
    (a.afterCalls other calls).Reaches core ↔ a.Reaches core := by
  induction calls generalizing a with
  | nil => rfl
  | cons call calls ih =>
    refine ih.trans ?_
    cases call with
    | absorb r => exact reaches_absorb
    | drain max => exact reaches_drain

/-- A call leaves the number of attempts. -/
theorem attempts_onCore (a : Aggregation) (core : Nat) (call : SlotCall) :
    (call.onCore core a).attempts = a.attempts := by
  cases call with
  | absorb r => exact a.attempts_absorb core r
  | drain max => exact a.attempts_drain core max

/-- So do calls on any cores. -/
theorem attempts_afterUses (a : Aggregation) (uses : List (Nat × SlotCall)) :
    (a.afterUses uses).attempts = a.attempts := by
  induction uses generalizing a with
  | nil => rfl
  | cons use uses ih => exact (ih _).trans (a.attempts_onCore use.1 use.2)

namespace Sound

variable {a : Aggregation} (h : a.Sound storeCapacity queueCapacity)
include h

/-- A call keeps the slots sound. -/
theorem onCore (core : Nat) (call : SlotCall) :
    (call.onCore core a).Sound storeCapacity queueCapacity := by
  cases call with
  | absorb r =>
    rcases h.absorb_cases core r with ⟨_, _, _, he, hb, -⟩ | ⟨_, he, hb, -⟩ | ⟨_, he⟩
    · simpa only [SlotCall.onCore, he] using hb
    · simpa only [SlotCall.onCore, he] using hb
    · simpa only [SlotCall.onCore, he] using h
  | drain max =>
    rcases h.drain_cases core max with ⟨_, he⟩ | ⟨_, _, _, he, hb, -⟩
    · simpa only [SlotCall.onCore, he] using h
    · simpa only [SlotCall.onCore, he] using hb

/-- A call on a core is the same call on its roster. -/
theorem onCore_eq {core : Nat} (hcore : core < a.coreCount) (hattempts : 0 < a.attempts)
    (call : SlotCall) :
    call.onCore core a
      = a.setRoster storeCapacity queueCapacity core
          (call.onRoster storeCapacity queueCapacity (a.roster core)) := by
  cases call with
  | absorb r => rw [SlotCall.onCore, h.absorb_eq hcore hattempts]; rfl
  | drain max => rw [SlotCall.onCore, h.drain_eq core hattempts]; rfl

/-- Calls on a core are the same calls on its roster. -/
theorem afterCalls_eq_setRoster {core : Nat} (hcore : core < a.coreCount)
    (hattempts : 0 < a.attempts) (calls : List SlotCall) :
    a.afterCalls core calls
      = a.setRoster storeCapacity queueCapacity core
          (calls.foldl (SlotCall.onRoster storeCapacity queueCapacity) (a.roster core)) := by
  induction calls generalizing a with
  | nil => exact (h.setRoster_roster core).symm
  | cons call calls ih =>
    -- The first call gives slots to which `ih` applies; they differ from `a` on this core only.
    have hstep := h.onCore_eq hcore hattempts call
    have hnext := ih (h.onCore core call) (by rw [hstep]; simpa using hcore)
      (by rw [hstep]; exact hattempts)
    show (call.onCore core a).afterCalls core calls = _
    rw [hnext, hstep, roster_setRoster_self hcore, setRoster_setRoster]
    rfl

/-- Calls keep the slots sound. -/
theorem afterCalls (core : Nat) (calls : List SlotCall) :
    (a.afterCalls core calls).Sound storeCapacity queueCapacity := by
  induction calls generalizing a with
  | nil => exact h
  | cons call calls ih => exact ih (h.onCore core call)

/-- Calls on any cores keep the slots sound. -/
theorem afterUses (uses : List (Nat × SlotCall)) :
    (a.afterUses uses).Sound storeCapacity queueCapacity := by
  induction uses generalizing a with
  | nil => exact h
  | cons use uses ih => exact ih (h.onCore use.1 use.2)

end Sound

/-- Fresh slots with places for `storeCapacity` records and
`queueCapacity` ids each, a core that has one of them, and any calls on
that core.

Then the slot is the layout of the roster that the calls make of the
empty one: the queue has the ids in order, the store has each record
under its own id and nothing else. No id occurs twice, and the roster
fits both containers. The next record is answered as the roster answers
it; one that is handed back comes back as it was, and no slot changes.
The next pass takes what it takes from the roster: the first records in
order, none of them missed. -/
theorem slot_behaves_as_roster (cores storeCapacity queueCapacity attempts core : Nat)
    (hattempts : 0 < attempts) (hcore : core < slotCount cores) (calls : List SlotCall) :
    let a := (Aggregation.new cores storeCapacity queueCapacity attempts).afterCalls core calls
    let l := Roster.afterCalls storeCapacity queueCapacity calls
    a.cores.get? core = some (.new (.ofRoster storeCapacity queueCapacity l)) ∧
    l.Distinct ∧ l.length ≤ min storeCapacity queueCapacity ∧
    (∀ r, (a.absorb core r).1 = (l.absorb storeCapacity queueCapacity r).1) ∧
    (∀ r reason back, (a.absorb core r).1 = .fallback reason back →
      back = r ∧ (a.absorb core r).2 = a) ∧
    ∀ max, (a.drain core max).1 = .ok (l.drain max).1 := by
  intro a l
  have hnew := sound_new cores storeCapacity queueCapacity attempts
  have hcore' : core < (Aggregation.new cores storeCapacity queueCapacity attempts).coreCount := by
    rwa [coreCount_new]
  have ha : a = _ := hnew.afterCalls_eq_setRoster hcore' hattempts calls
  -- The calls leave sound slots with the roster `l` on this core, and all else is read off.
  have hsound : a.Sound storeCapacity queueCapacity := hnew.afterCalls core calls
  have hroster : a.roster core = l := by
    rw [ha, roster_setRoster_self hcore', roster_new]
    rfl
  have hcount : core < a.coreCount := by rwa [ha, coreCount_setRoster]
  have hlock : 0 < a.attempts := by rwa [ha]
  have habsorb := fun r => hsound.absorb_eq hcount hlock r
  rw [hroster] at habsorb
  refine ⟨?_, ?_, ?_, fun r => by rw [habsorb], fun r reason back hback => ?_, fun max => ?_⟩
  · rw [← hroster]
    exact hsound.slot core hcount
  · rw [← hroster]
    exact hsound.distinct core
  · rw [← hroster]
    exact hsound.fits core
  · rcases hsound.absorb_cases core r with ⟨_, _, _, he, -⟩ | ⟨_, he, -⟩ | ⟨_, he⟩ <;>
      rw [he] at hback ⊢ <;> cases hback
    exact ⟨rfl, rfl⟩
  · rw [hsound.drain_eq core hlock, hroster]

/-- A slot with two places in the store and one in the queue, and three
records of which the last has the id of the first. The second is handed
back, and still is when it comes again; the first counts twice when it
is taken out. -/
theorem slot_behaves_as_roster_full_queue :
    let first : Record := { (default : Record) with id := 7, count := 1 }
    let second : Record := { (default : Record) with id := 8, count := 1 }
    let a := (Aggregation.new 2 2 1 3).afterCalls 1
      [.absorb first, .absorb second, .absorb first]
    0 < 3 ∧ 1 < slotCount 2 ∧
    (a.absorb 1 second).1 = .fallback .queueFull second ∧ (a.absorb 1 second).2 = a ∧
    (a.drain 1 5).1 = .ok ([{ first with count := 2 }], ⟨1, 0, 0⟩) := by
  intro first second a
  obtain ⟨-, -, -, habsorb, hback, hdrain⟩ := slot_behaves_as_roster 2 2 1 3 1 (by decide)
    (by decide) [.absorb first, .absorb second, .absorb first]
  have hfull : (a.absorb 1 second).1 = .fallback .queueFull second := (habsorb second).trans rfl
  exact ⟨by decide, by decide, hfull, (hback second _ _ hfull).2, (hdrain 5).trans rfl⟩

end Aggregation

end RuleTrace
