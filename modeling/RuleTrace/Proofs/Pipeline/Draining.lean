import Mathlib.Algebra.Order.BigOperators.Group.List
import Mathlib.Algebra.Order.Ring.Nat
import RuleTrace.Pipeline.Draining
import RuleTrace.Proofs.Pipeline.Locks

/-!
# `RuleTrace.Proofs.Pipeline.Draining`: emptying the slots while others are at work

`Ready.step_cases` says once what a step in emptying the slots can do.
From it follow the account of a step (`Ready.accounts_step`), that the
steps come to an end (`Ready.stepsLeft_step`), and what they leave
behind: a core that was passed by is empty unless it was given up
because of its lock (`Ready.passed_step`), which takes somebody who
holds it (`Ready.givenUp_step`).

With nobody at the locks the steps lead to where `Pipeline.drainAll`
goes at once (`Ready.drainOver_step`).
-/

set_option autoImplicit false

namespace RuleTrace

namespace Pipeline

/-- The records that are stored on a core. -/
def storedOn (p : Pipeline) (core : Nat) : List Record :=
  (p.slots.map fun a => a.roster core).getD []

/-- The pipeline after all records of some cores were handed on. -/
def drainOver (p : Pipeline) (cores : List Nat) : Pipeline :=
  match p.slots with
  | none => p
  | some a =>
    let (_, slots, outlet) := Outlet.drainCores p.batch cores a p.outlet
    { p with slots := some slots, outlet := outlet }

/-- Draining everything is draining all cores. -/
theorem drainAll_eq_drainOver (p : Pipeline) :
    p.drainAll.2 = p.drainOver (Draining.start p).cores := by
  rw [drainAll, drainOver, Draining.start]
  cases p.slots <;> rfl

/-- Where nothing is stored on any core, nothing is stored. -/
theorem stored_eq_nil_of_storedOn {p : Pipeline} (h : ∀ core, p.storedOn core = []) :
    p.stored = [] := by
  cases hslots : p.slots with
  | none => exact stored_eq_nil hslots
  | some a =>
    rw [stored_eq hslots]
    refine a.stored_eq_nil fun core => ?_
    have hcore := h core
    rw [storedOn, hslots] at hcore
    exact hcore

section
variable {p : Pipeline} {a : Aggregation} {storeCapacity queueCapacity : Nat}

/-- One record of a pass comes from the head of the roster. -/
theorem offer_eq (hslots : p.slots = some a) (h : a.Sound storeCapacity queueCapacity)
    (hattempts : 0 < a.attempts) (core : Nat) :
    p.offer core = { p with
      slots := some (a.setRoster storeCapacity queueCapacity core ((a.roster core).drop 1))
      outlet := ((a.roster core).take 1).foldl (Outlet.publishFlushed core) p.outlet } := by
  rw [offer, flushCore]
  simp only [hslots, Outlet.flushCore_eq h hattempts]

/-- After it one record less is stored on the core. -/
theorem storedOn_offer (hslots : p.slots = some a) (h : a.Sound storeCapacity queueCapacity)
    (hattempts : 0 < a.attempts) (core other : Nat) :
    (p.offer core).storedOn other
      = if other = core then (p.storedOn core).drop 1 else p.storedOn other := by
  rw [offer_eq hslots h hattempts, storedOn, storedOn, storedOn, hslots]
  split
  · rename_i e
    rw [e]
    exact Aggregation.roster_setRoster_drop core 1
  · rename_i e
    exact Aggregation.roster_setRoster_of_ne e _

/-- What draining cores at once leaves, each given once. -/
theorem drainOver_eq (hslots : p.slots = some a) (h : a.Sound storeCapacity queueCapacity)
    (hattempts : 0 < a.attempts) (hbatch : 0 < p.batch) {cores : List Nat}
    (hcores : cores.Nodup) :
    p.drainOver cores = { p with
      slots := some (Outlet.emptied storeCapacity queueCapacity a cores)
      outlet := p.outlet.offerAll (Outlet.rosterOffers a cores) } := by
  rw [drainOver, hslots]
  dsimp only
  rw [Outlet.drainCores_eq h hattempts hbatch hcores]

/-- Without cores nothing is handed on. -/
theorem drainOver_nil (p : Pipeline) : p.drainOver [] = p := by
  rw [drainOver]
  cases hslots : p.slots with
  | none => rfl
  | some a =>
    show { p with slots := some a } = p
    rw [← hslots]

/-- A record that is handed on before is not missed. -/
theorem drainOver_offer (hslots : p.slots = some a) (h : a.Sound storeCapacity queueCapacity)
    (hattempts : 0 < a.attempts) (hbatch : 0 < p.batch) {core : Nat} {rest : List Nat}
    (hcores : (core :: rest).Nodup) :
    (p.offer core).drainOver (core :: rest) = p.drainOver (core :: rest) := by
  have hnot := (List.nodup_cons.mp hcores).1
  have hsound := h.setRoster_drop core 1
  have hroster : (a.setRoster storeCapacity queueCapacity core
      ((a.roster core).drop 1)).roster core = (a.roster core).drop 1 :=
    Aggregation.roster_setRoster_drop core 1
  have hemptied : Outlet.emptied storeCapacity queueCapacity
      (a.setRoster storeCapacity queueCapacity core ((a.roster core).drop 1)) (core :: rest)
      = Outlet.emptied storeCapacity queueCapacity a (core :: rest) := by
    show Outlet.emptied _ _ (Aggregation.setRoster _ _ _ core []) rest = _
    rw [Aggregation.setRoster_setRoster]
    rfl
  have hoffer := offer_eq hslots h hattempts core
  have hnext := drainOver_eq (show (p.offer core).slots = some _ by rw [hoffer]) hsound hattempts
    (show 0 < (p.offer core).batch from hbatch) hcores
  rw [hnext, drainOver_eq hslots h hattempts hbatch hcores, hoffer]
  dsimp only
  -- The head of the roster was offered first, and what follows comes after it.
  rw [hemptied, Outlet.offerAll_rosterOffers_cons, Outlet.offerAll_rosterOffers_cons, hroster,
    Outlet.rosterOffers_setRoster hnot, ← List.foldl_append, List.take_append_drop]

/-- A core without records adds nothing to what the others offer. -/
theorem drainOver_of_nil (hslots : p.slots = some a) (h : a.Sound storeCapacity queueCapacity)
    (hattempts : 0 < a.attempts) (hbatch : 0 < p.batch) {core : Nat} {rest : List Nat}
    (hcores : (core :: rest).Nodup) (hempty : p.storedOn core = []) :
    p.drainOver (core :: rest) = p.drainOver rest := by
  have hroster : a.roster core = [] := by
    rw [storedOn, hslots] at hempty
    exact hempty
  have hkeeps := h.setRoster_roster core
  rw [hroster] at hkeeps
  have hoffers : Outlet.rosterOffers a (core :: rest) = Outlet.rosterOffers a rest := by
    rw [Outlet.rosterOffers_cons, hroster]
    rfl
  -- To empty a core without records is to leave it as it is.
  have hemptied : Outlet.emptied storeCapacity queueCapacity a (core :: rest)
      = Outlet.emptied storeCapacity queueCapacity a rest := by
    show Outlet.emptied _ _ (a.setRoster storeCapacity queueCapacity core []) rest = _
    rw [hkeeps]
  rw [drainOver_eq hslots h hattempts hbatch hcores,
    drainOver_eq hslots h hattempts hbatch (List.nodup_cons.mp hcores).2, hoffers, hemptied]

end

end Pipeline

namespace Draining

/-- What is weighed of a pass that is under way. Its first record weighs
more than its beginning, so that a pass that ended leaves less to be
done than one that goes on. -/
def passWeight : Option Nat → Nat
  | none => 2
  | some 0 => 1
  | some (_ + 1) => 3

/-- A pass weighs something, and never more than three. -/
theorem passWeight_bounds (taken : Option Nat) :
    0 < passWeight taken ∧ passWeight taken ≤ 3 := by
  rcases taken with _ | _ | n <;> simp [passWeight]

/-- A bound for the steps that are left. -/
def stepsLeft (d : Draining) (p : Pipeline) : Nat :=
  (d.cores.map fun core => 3 * (p.storedOn core).length + 3).sum + passWeight d.taken

/-- What passes the borders of the pipeline in a step. -/
def traffic (d : Draining) (p : Pipeline) : Traffic :=
  match d.cores, d.taken with
  | core :: _, some n =>
    if n < p.batch ∧ pendingOn p core ≠ 0 then p.offerTraffic core else .empty
  | _, _ => .empty

/-- The reader gets nothing by a step. -/
theorem delivered_traffic (d : Draining) (p : Pipeline) : (d.traffic p).delivered = [] := by
  rw [traffic]
  split
  · split <;> rfl
  · rfl

/-- The cores that are neither left to be drained nor given up are
empty. -/
def Passed (d : Draining) (p : Pipeline) : Prop :=
  ∀ core, core ∉ d.cores → core ∉ d.givenUp → p.storedOn core = []

/-- A pipeline that can be drained: its slots are sound, a pass may take
a record, and where cores are left an attempt at their locks is
allowed. -/
structure Ready (d : Draining) (p : Pipeline) : Prop where
  sound : p.Sound
  batch_pos : 0 < p.batch
  attempts_pos : d.cores ≠ [] → 0 < (p.slots.map Aggregation.attempts).getD 0

/-- Ids that wait are records that are stored. -/
theorem pendingOn_eq {p : Pipeline} (h : p.Sound) (core : Nat) :
    pendingOn p core = (p.storedOn core).length := by
  rw [pendingOn, Pipeline.storedOn]
  cases hslots : p.slots with
  | none => rfl
  | some a =>
    obtain ⟨storeCapacity, queueCapacity, ha⟩ := h a hslots
    exact Outlet.pendingOn_eq ha core

/-- Without cores there is nothing to be done. -/
theorem step_of_done {d : Draining} {p : Pipeline} (hcores : d.cores = []) (contended : Bool) :
    d.step contended p = (d, p) := by
  rw [step, hcores]

/-- The slots can be drained from the start, if a pass may take a record
and an attempt at the locks is allowed. -/
theorem ready_start {p : Pipeline} (h : p.Sound) (hbatch : 0 < p.batch)
    (hattempts : ∀ n ∈ p.slots.map Aggregation.attempts, 0 < n) : Ready (start p) p := by
  refine ⟨h, hbatch, fun hcores => ?_⟩
  rw [start] at hcores
  cases hslots : p.slots with
  | none =>
    rw [hslots] at hcores
    exact absurd rfl hcores
  | some a => exact hattempts _ (by rw [hslots]; rfl)

/-- No core is passed by at the start. -/
theorem passed_start (p : Pipeline) : (start p).Passed p := by
  intro core hcore _
  rw [start] at hcore
  rw [Pipeline.storedOn]
  cases hslots : p.slots with
  | none => rfl
  | some a =>
    rw [hslots] at hcore
    exact Aggregation.roster_of_coreCount_le
      (Nat.le_of_not_lt fun hlt => hcore (List.mem_range.mpr hlt))

namespace Ready

variable {d : Draining} {p : Pipeline} {core : Nat} {rest : List Nat}

/-- Where cores are left there are slots behind locks that may be
tried. -/
theorem exists_slots (h : Ready d p) (hcores : d.cores = core :: rest) :
    ∃ a storeCapacity queueCapacity, p.slots = some a ∧ 0 < a.attempts ∧
      a.Sound storeCapacity queueCapacity := by
  have hattempts := h.attempts_pos (by rw [hcores]; exact List.cons_ne_nil _ _)
  cases hslots : p.slots with
  | none =>
    rw [hslots] at hattempts
    exact absurd hattempts (Nat.lt_irrefl 0)
  | some a =>
    rw [hslots] at hattempts
    obtain ⟨storeCapacity, queueCapacity, ha⟩ := h.sound a hslots
    exact ⟨a, storeCapacity, queueCapacity, rfl, hattempts, ha⟩

/-- What is in the lanes does not matter. -/
theorem withChannel (h : Ready d p) (c : Channel) : Ready d (p.withChannel c) :=
  ⟨h.sound, h.batch_pos, h.attempts_pos⟩

/-- What a step can do: give up a core whose lock is held, begin a pass,
hand on a record, leave a core that is empty, or end a pass that took
something. -/
theorem step_cases (h : Ready d p) (hcores : d.cores = core :: rest) (contended : Bool) :
    (d.taken = none ∧ contended = true ∧ d.traffic p = .empty ∧
      d.step contended p = ({ d with cores := rest, givenUp := core :: d.givenUp },
        p.bumps [.readWait, .lockContended])) ∨
    (d.taken = none ∧ d.traffic p = .empty ∧
      d.step contended p = ({ d with taken := some 0 }, p)) ∨
    (∃ n, d.taken = some n ∧ p.storedOn core ≠ [] ∧ d.traffic p = p.offerTraffic core ∧
      d.step contended p = ({ d with taken := some (n + 1) }, p.offer core)) ∨
    (∃ n, d.taken = some n ∧ p.storedOn core = [] ∧ d.traffic p = .empty ∧
      d.step contended p = ({ d with cores := rest, taken := none }, p)) ∨
    (∃ n, d.taken = some (n + 1) ∧ d.traffic p = .empty ∧
      d.step contended p = ({ d with taken := none }, p)) := by
  have hpending : pendingOn p core = 0 ↔ p.storedOn core = [] := by
    rw [pendingOn_eq h.sound, List.length_eq_zero_iff]
  have hbatch := h.batch_pos
  have hattempts := h.attempts_pos (by rw [hcores]; exact List.cons_ne_nil core rest)
  obtain ⟨_, taken, givenUp⟩ := d
  cases hcores
  rw [step, traffic]
  cases taken with
  | none =>
    dsimp only
    rw [beginPass, Lock.acquire]
    cases contended with
    | false =>
      rw [if_pos ⟨hattempts, rfl⟩]
      exact .inr (.inl ⟨rfl, rfl, rfl⟩)
    | true =>
      rw [if_neg fun hfree => Bool.noConfusion hfree.2]
      exact .inl ⟨rfl, rfl, rfl, rfl⟩
  | some n =>
    dsimp only
    rw [goOn]
    by_cases hnext : n < p.batch ∧ pendingOn p core ≠ 0
    · rw [if_pos hnext, if_pos hnext]
      exact .inr (.inr (.inl ⟨n, rfl, fun he => hnext.2 (hpending.mpr he), rfl, rfl⟩))
    · rw [if_neg hnext, if_neg hnext]
      by_cases hempty : p.storedOn core = []
      · rw [if_pos (.inl (hpending.mpr hempty))]
        exact .inr (.inr (.inr (.inl ⟨n, rfl, hempty, rfl, rfl⟩)))
      · -- Some wait, so the batch is full, and a batch is not empty.
        have hwait : pendingOn p core ≠ 0 := fun he => hempty (hpending.mp he)
        obtain ⟨m, rfl⟩ : ∃ m, n = m + 1 :=
          Nat.exists_eq_succ_of_ne_zero fun hzero => hnext ⟨hzero ▸ hbatch, hwait⟩
        rw [if_neg (by omega)]
        exact .inr (.inr (.inr (.inr ⟨m, rfl, rfl, rfl⟩)))

/-- No record is lost in a step. -/
theorem accounts_step (h : Ready d p) (contended : Bool) :
    p.Accounts (d.traffic p) (d.step contended p).2 := by
  cases hcores : d.cores with
  | nil =>
    rw [step_of_done hcores, traffic, hcores]
    exact .refl h.sound
  | cons core rest =>
    rcases h.step_cases hcores contended with
      ⟨-, -, ht, he⟩ | ⟨-, ht, he⟩ | ⟨n, -, -, ht, he⟩ | ⟨n, -, -, ht, he⟩ | ⟨n, -, ht, he⟩ <;>
      rw [ht, he]
    · exact ⟨h.sound.bumps _, rfl, (Pipeline.held_bumps _ p _).symm⟩
    · exact .refl h.sound
    · -- With all locks free the offer is the one that any state of the locks allows.
      have hoffer := Pipeline.accounts_offer h.sound (fun _ => false) core
      rwa [h.sound.withCoreLocks_free, (h.sound.offer core).withCoreLocks_free] at hoffer
    · exact .refl h.sound
    · exact .refl h.sound

/-- A step leaves cores out, and never takes one in. -/
theorem cores_step_sublist (h : Ready d p) (contended : Bool) :
    (d.step contended p).1.cores.Sublist d.cores := by
  cases hcores : d.cores with
  | nil =>
    rw [step_of_done hcores, hcores]
  | cons core rest =>
    rcases h.step_cases hcores contended with
      ⟨-, -, -, he⟩ | ⟨-, -, he⟩ | ⟨n, -, -, -, he⟩ | ⟨n, -, -, -, he⟩ | ⟨n, -, -, he⟩ <;> rw [he]
    · exact List.sublist_cons_self core rest
    · exact hcores ▸ .refl _
    · exact hcores ▸ .refl _
    · exact List.sublist_cons_self core rest
    · exact hcores ▸ .refl _

/-- What can be drained can still be drained after a step. -/
theorem step (h : Ready d p) (contended : Bool) :
    Ready (d.step contended p).1 (d.step contended p).2 := by
  have haccounts := h.accounts_step contended
  have hlimits := Prod.mk.inj haccounts.limits_eq
  refine ⟨haccounts.sound, hlimits.1 ▸ h.batch_pos, fun hleft => ?_⟩
  rw [hlimits.2]
  refine h.attempts_pos fun hnone => hleft ?_
  have hsub := h.cores_step_sublist contended
  rw [hnone] at hsub
  exact List.sublist_nil.mp hsub

/-- A core that is passed by is empty, or it was given up. -/
theorem passed_step (h : Ready d p) (hpassed : d.Passed p) (contended : Bool) :
    (d.step contended p).1.Passed (d.step contended p).2 := by
  cases hcores : d.cores with
  | nil =>
    rw [step_of_done hcores]
    exact hpassed
  | cons core rest =>
    obtain ⟨a, storeCapacity, queueCapacity, hslots, hattempts, ha⟩ := h.exists_slots hcores
    rw [Passed, hcores] at hpassed
    rcases h.step_cases hcores contended with
      ⟨-, -, -, he⟩ | ⟨-, -, he⟩ | ⟨n, -, -, -, he⟩ | ⟨n, -, hempty, -, he⟩ | ⟨n, -, -, he⟩ <;>
      rw [he] <;> intro other hleft hgivenUp
    · -- The core that is left out now is among those given up.
      rw [List.mem_cons, not_or] at hgivenUp
      exact hpassed other (List.not_mem_cons_of_ne_of_not_mem hgivenUp.1 hleft) hgivenUp.2
    · exact hpassed other (hcores ▸ hleft) hgivenUp
    · have hne : other ≠ core := fun e => hleft (by rw [hcores, e]; exact List.mem_cons_self)
      rw [Pipeline.storedOn_offer hslots ha hattempts, if_neg hne]
      exact hpassed other (hcores ▸ hleft) hgivenUp
    · by_cases hother : other = core
      · rw [hother]
        exact hempty
      · exact hpassed other (List.not_mem_cons_of_ne_of_not_mem hother hleft) hgivenUp
    · exact hpassed other (hcores ▸ hleft) hgivenUp

/-- Nobody gives up a core whose lock is free. -/
theorem givenUp_step (h : Ready d p) : (d.step false p).1.givenUp = d.givenUp := by
  cases hcores : d.cores with
  | nil => rw [step_of_done hcores]
  | cons core rest =>
    rcases h.step_cases hcores false with
      ⟨-, hheld, -⟩ | ⟨-, -, he⟩ | ⟨n, -, -, -, he⟩ | ⟨n, -, -, -, he⟩ | ⟨n, -, -, he⟩
    · exact Bool.noConfusion hheld
    all_goals rw [he]

/-- While cores are left, each step leaves less to be done. -/
theorem stepsLeft_step (h : Ready d p) (hleft : d.cores ≠ []) (contended : Bool) :
    (d.step contended p).1.stepsLeft (d.step contended p).2 < d.stepsLeft p := by
  obtain ⟨core, rest, hcores⟩ := List.exists_cons_of_ne_nil hleft
  obtain ⟨a, storeCapacity, queueCapacity, hslots, hattempts, ha⟩ := h.exists_slots hcores
  obtain ⟨hpos, hbound⟩ := passWeight_bounds d.taken
  have hall : d.stepsLeft p = 3 * (p.storedOn core).length + 3
      + (rest.map fun core => 3 * (p.storedOn core).length + 3).sum + passWeight d.taken := by
    rw [stepsLeft, hcores, List.map_cons, List.sum_cons]
  rcases h.step_cases hcores contended with
    ⟨ht, -, -, he⟩ | ⟨ht, -, he⟩ | ⟨n, ht, hne, -, he⟩ | ⟨n, ht, -, -, he⟩ | ⟨n, ht, -, he⟩ <;>
    rw [he, hall, stepsLeft] <;> dsimp only
  · show (rest.map fun core => 3 * (p.storedOn core).length + 3).sum + passWeight d.taken < _
    omega
  · rw [hcores, ht, List.map_cons, List.sum_cons]
    exact Nat.lt_succ_self _
  · -- The record that is handed on outweighs whatever the pass weighs.
    have hstored := Pipeline.storedOn_offer hslots ha hattempts core
    have hfirst : ((p.offer core).storedOn core).length + 1 = (p.storedOn core).length := by
      have := List.length_pos_iff.mpr hne
      rw [hstored, if_pos rfl, List.length_drop]
      omega
    have hrest : (rest.map fun other => 3 * ((p.offer core).storedOn other).length + 3).sum
        ≤ (rest.map fun other => 3 * (p.storedOn other).length + 3).sum := by
      refine List.sum_le_sum fun other _ => ?_
      rw [hstored]
      split
      · rename_i e
        rw [e, List.length_drop]
        omega
      · exact Nat.le_refl _
    rw [hcores, List.map_cons, List.sum_cons]
    show _ + 3 < _
    omega
  · show (rest.map fun core => 3 * (p.storedOn core).length + 3).sum + 2 < _
    omega
  · rw [hcores, ht, List.map_cons, List.sum_cons]
    exact Nat.lt_succ_self _

/-! ### With nobody at the locks -/

/-- A step with nobody at the locks does not change where draining the
cores that are left leads to. -/
theorem drainOver_step (h : Ready d p) (hnodup : d.cores.Nodup) :
    (d.step false p).2.drainOver (d.step false p).1.cores = p.drainOver d.cores := by
  cases hcores : d.cores with
  | nil => rw [step_of_done hcores, hcores]
  | cons core rest =>
    obtain ⟨a, storeCapacity, queueCapacity, hslots, hattempts, ha⟩ := h.exists_slots hcores
    rw [hcores] at hnodup
    rcases h.step_cases hcores false with
      ⟨-, hheld, -⟩ | ⟨-, -, he⟩ | ⟨n, -, -, -, he⟩ | ⟨n, -, hempty, -, he⟩ | ⟨n, -, -, he⟩
    · exact Bool.noConfusion hheld
    all_goals rw [he]
    · exact congrArg p.drainOver hcores
    · rw [hcores]
      exact Pipeline.drainOver_offer hslots ha hattempts h.batch_pos hnodup
    · exact (Pipeline.drainOver_of_nil hslots ha hattempts h.batch_pos hnodup hempty).symm
    · exact congrArg p.drainOver hcores

end Ready

end Draining

end RuleTrace
