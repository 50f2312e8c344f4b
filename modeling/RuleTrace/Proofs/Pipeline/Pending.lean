import RuleTrace.Proofs.Pipeline.Mode

/-!
# `RuleTrace.Proofs.Pipeline.Pending`: ids that wait on a core

A pipeline is `Undisturbed` if nobody is at its locks, so that what is
done with it is done at once. Then a pass over a core takes a batch of
the ids that wait there, the oldest first (`flushCore_pendingIds`), and of
many passes only those over this core matter (`pendingIds_flushAll`).
While the interval is zero no ids are added (`pendingIds_trace_of_zero`).
-/

set_option autoImplicit false

namespace RuleTrace

namespace Aggregation

/-- What matters to a core tells the ids that wait there. -/
theorem pendingIds_of_share {a b : Aggregation} {core : Nat} (h : b.share core = a.share core) :
    b.pendingIds core = a.pendingIds core := by
  rw [pendingIds, pendingIds, (Prod.mk.inj h).2]

end Aggregation

namespace Pipeline

/-- The ids that wait on a core, the oldest first. -/
def pendingIds (p : Pipeline) (core : Nat) : List UInt32 :=
  (p.slots.map fun a => a.pendingIds core).getD []

/-- A pipeline with nobody at its locks. -/
structure Undisturbed (aggregating : Bool) (batch attempts : Nat) (p : Pipeline) : Prop where
  sound : p.Sound
  works : p.Works aggregating attempts
  limits_eq : p.limits = (batch, if aggregating then some attempts else none)
  free : p.settings.lock = .free

/-- Nobody is at the locks of a new pipeline. -/
theorem undisturbed_new (c : Config) (cores : Nat) :
    (new c cores).Undisturbed c.isAggregating (new c cores).batch c.attempts where
  sound := sound_new c cores
  works := works_new c cores
  limits_eq := by
    rw [limits, new]
    cases c.isAggregating <;> rfl
  free := by
    rw [settings_new]
    rfl

namespace Undisturbed

variable {aggregating : Bool} {batch attempts : Nat} {p : Pipeline}
  (h : p.Undisturbed aggregating batch attempts)
include h

/-- The size of a batch is part of the limits. -/
theorem batch_eq : p.batch = batch := (Prod.mk.inj h.limits_eq).1

/-- No operation leaves a lock behind. -/
theorem after (op : Operation) : (p.after op).Undisturbed aggregating batch attempts where
  sound := h.sound.after op
  works := h.works.after op
  limits_eq := (p.limits_after op).trans h.limits_eq
  free := by
    rcases p.settings_after op with he | ⟨rate, interval, he⟩
    · rw [he]
      exact h.free
    · -- Whoever takes the lock to update the settings gives it back.
      rw [he]
      rcases p.settings.update_cases rate interval with
        ⟨-, he⟩ | ⟨-, -, he⟩ | ⟨-, -, he⟩ <;> rw [he] <;> exact h.free

/-- Passes leave no lock behind. -/
theorem flushAll (cores : List Nat) :
    (p.flushAll cores).Undisturbed aggregating batch attempts := by
  induction cores generalizing p with
  | nil => exact h
  | cons core cores ih => exact ih (h.after (.flushCore core))

end Undisturbed

/-! ### What waits on a core -/

/-- Work on one core leaves the ids that wait on another. -/
theorem OnlyOn.pendingIds_eq {core other : Nat} {p q : Pipeline} (h : OnlyOn core p q)
    (hother : other ≠ core) : q.pendingIds other = p.pendingIds other := by
  have hslot := h.slot_eq other hother
  rw [pendingIds, pendingIds]
  cases hp : p.slots with
  | none =>
    rw [hp, Option.map_none, Option.map_eq_none_iff] at hslot
    rw [hslot]
  | some a =>
    rw [hp, Option.map_some] at hslot
    obtain ⟨b, hb, hshare⟩ := Option.map_eq_some_iff.mp hslot
    rw [hb]
    exact Aggregation.pendingIds_of_share hshare

/-- A pass takes the oldest ids, as many as a batch holds, and misses
none. -/
theorem flushCore_pendingIds {batch attempts : Nat} {p : Pipeline}
    (h : p.Undisturbed true batch attempts) (hattempts : 0 < attempts) (core : Nat) :
    (p.flushCore core).2.pendingIds core = (p.pendingIds core).drop batch ∧
    (p.flushCore core).1.emitted = min batch (p.pendingIds core).length ∧
    (p.flushCore core).1.missed = 0 := by
  have hlimits := h.limits_eq
  obtain ⟨a, ha⟩ := Option.isSome_iff_exists.mp h.works.slots_eq
  obtain ⟨storeCapacity, queueCapacity, hsound⟩ := h.sound a ha
  have hlock : 0 < a.attempts := by
    rw [limits, ha] at hlimits
    rw [Option.some.inj (Prod.mk.inj hlimits).2]
    exact hattempts
  -- With nobody at the locks the pass reaches the slot and cuts a batch off its roster.
  have hpass := Outlet.flushCore_eq hsound hlock p.outlet p.batch core
  have hleft := (hsound.setRoster_drop core p.batch).pendingIds_eq core
  rw [Aggregation.roster_setRoster_drop] at hleft
  have hbefore : p.pendingIds core = (a.roster core).ids := by
    rw [pendingIds, ha]
    exact hsound.pendingIds_eq core
  rw [hbefore, ← h.batch_eq, Roster.length_ids, flushCore, ha]
  dsimp only
  rw [hpass]
  exact ⟨hleft.trans List.map_drop, rfl, rfl⟩

/-- Passes over a core take a batch each, and the other passes do not
matter. -/
theorem pendingIds_flushAll {batch attempts : Nat} {p : Pipeline}
    (h : p.Undisturbed true batch attempts) (hattempts : 0 < attempts) (cores : List Nat)
    (core : Nat) :
    (p.flushAll cores).pendingIds core = (p.pendingIds core).drop (cores.count core * batch) := by
  induction cores generalizing p with
  | nil =>
    rw [List.count_nil, Nat.zero_mul, List.drop_zero]
    rfl
  | cons other cores ih =>
    have hrest := ih (h.after (.flushCore other))
    refine hrest.trans ?_
    show ((p.flushCore other).2.pendingIds core).drop _ = _
    by_cases hother : other = core
    · subst hother
      -- This pass takes a batch off, and the passes that follow take the rest.
      rw [(flushCore_pendingIds h hattempts other).1, List.drop_drop, List.count_cons_self,
        Nat.add_mul, Nat.one_mul, Nat.add_comm]
    · rw [(onlyOn_flushCore p other).pendingIds_eq fun he => hother he.symm,
        List.count_cons_of_ne hother]

/-- While the interval is zero, a notification stores nothing. -/
theorem pendingIds_trace_of_zero {p : Pipeline} (h : p.settings.interval = 0) (source : Nat)
    (n : Notification) (now : UInt64) (core : Nat) :
    (p.trace source n now).2.pendingIds core = p.pendingIds core := by
  -- A zero interval turns aggregation off, so what is kept is sent out at once.
  have henabled : p.sampled.settings.enabled = false := by
    show (p.settings.interval != 0) = false
    rw [h]
    rfl
  have hdirect : ∀ r, (p.sampled.emitDirect source r).2.pendingIds core = p.pendingIds core := by
    intro r
    rcases p.sampled.emitDirect_cases source r with ⟨d, -, he⟩ | he <;> rw [he] <;> rfl
  rw [trace_eq]
  split
  · rfl
  · split
    · rw [p.sampled.deliver_of_not_enabled henabled]
      exact hdirect _
    · rfl

/-- Only an update changes the interval, and with nobody at the lock it
does. -/
theorem interval_update {batch attempts : Nat} {p : Pipeline}
    (h : p.Undisturbed true batch attempts) (hattempts : 0 < attempts) (rate : UInt64)
    (interval : Span) : (p.update rate interval).2.settings.interval = interval.saturated := by
  have hok := (Settings.update_eq_ok_iff p.settings rate interval).mpr
    ⟨.inr h.works.available_eq, h.free, h.works.attempts_eq ▸ hattempts⟩
  exact congrArg Settings.interval (Settings.update_of_ok hok)

end Pipeline

end RuleTrace
