import RuleTrace.Proofs.Pipeline.Frame

/-!
# `RuleTrace.Proofs.Pipeline.Drain`: bringing a pipeline to rest

Flush passes can empty the slots only if they may try the locks and
take records at all. Both are fixed when a pipeline is built, and no
operation touches them (`limits_afterAll`). So at any time draining
everything leaves nothing in the slots (`stored_drainAll`), and reading
all that waits leaves nothing in the lanes.
-/

set_option autoImplicit false

namespace RuleTrace.Pipeline

/-- What no operation changes: the size of a batch, and the attempts at
the locks where there are slots. -/
def limits (p : Pipeline) : Nat × Option Nat := (p.batch, p.slots.map Aggregation.attempts)

/-- Work on one core does not touch the limits, which any other core
shares. -/
theorem OnlyOn.limits_eq {core : Nat} {p q : Pipeline} (h : OnlyOn core p q) :
    q.limits = p.limits := by
  have hattempts : ∀ s : Pipeline, s.slots.map Aggregation.attempts
      = (s.slots.map fun a => a.share (core + 1)).map Prod.fst := by
    intro s
    rw [Option.map_map]
    rfl
  rw [limits, limits, hattempts, hattempts, h.slot_eq (core + 1) (Nat.succ_ne_self core),
    h.batch_eq]

/-- Passes do not touch the limits. -/
theorem limits_flushAll (p : Pipeline) (cores : List Nat) :
    (p.flushAll cores).limits = p.limits := by
  induction cores generalizing p with
  | nil => rfl
  | cons core cores ih => exact (ih _).trans (onlyOn_flushCore p core).limits_eq

/-- No operation touches the limits. -/
theorem limits_after (p : Pipeline) (op : Operation) : (p.after op).limits = p.limits := by
  rcases p.after_cases op with ⟨core, n, now, he⟩ | ⟨cores, he⟩ | ⟨s, c, -, he⟩
  · rw [he, (onlyOn_trace p core n now).limits_eq]
  · rw [he, limits_flushAll]
  · rw [he]
    rfl

/-- The limits of a pipeline hold for its whole life. -/
theorem limits_afterAll (p : Pipeline) (ops : List Operation) :
    (p.afterAll ops).limits = p.limits := by
  induction ops generalizing p with
  | nil => rfl
  | cons op ops ih => exact (ih _).trans (p.limits_after op)

/-- Whatever batch is configured, a pass may take a record. -/
theorem batch_new_pos (c : Config) (cores : Nat) : 0 < (new c cores).batch := by
  rw [new]
  split <;> exact Nat.lt_of_lt_of_le Nat.zero_lt_one (Nat.le_max_right ..)

/-- Where there are slots, their locks are tried as often as is
configured. -/
theorem attempts_new (c : Config) (cores : Nat) :
    ∀ n ∈ (new c cores).slots.map Aggregation.attempts, n = c.attempts := by
  intro n hn
  rw [new] at hn
  split at hn
  · exact (Option.some.inj hn).symm
  · cases hn

/-- Whatever was done with a pipeline before, draining everything leaves
nothing in its slots, if an attempt at the locks is allowed. -/
theorem stored_drainAll {c : Config} (hattempts : 0 < c.attempts) (cores : Nat)
    (ops : List Operation) : ((new c cores).afterAll ops).drainAll.2.stored = [] := by
  have hsound := (sound_new c cores).afterAll ops
  have hlimits := (new c cores).limits_afterAll ops
  have hbatch := batch_new_pos c cores
  have hallowed := attempts_new c cores
  generalize (new c cores).afterAll ops = p at hsound hlimits
  rw [← (Prod.mk.inj hlimits).1] at hbatch
  rw [← (Prod.mk.inj hlimits).2] at hallowed
  rw [drainAll]
  cases hslots : p.slots with
  | none => exact stored_eq_nil hslots
  | some a =>
    obtain ⟨storeCapacity, queueCapacity, ha⟩ := hsound a hslots
    have hfree : a.attempts = c.attempts := hallowed _ (by rw [hslots]; rfl)
    exact Outlet.stored_drainAll ha (hfree ▸ hattempts) hbatch p.outlet

end RuleTrace.Pipeline
