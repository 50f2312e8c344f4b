import RuleTrace.Proofs.Aggregation.Calls
import RuleTrace.Proofs.Pipeline.Drain

/-!
# `RuleTrace.Proofs.Pipeline.FinalDrain`: the drain at the end of tracing

When tracing ends, passes are made over each core until none of its ids
waits or a pass does nothing. Nothing bounds the number of passes, and a
pass over a core whose lock is not to be had reports the same as one
that finds nothing.

`Outlet.Drains` is this loop without a bound. It relates slots and
outlet to what the loop offers to the lanes and to what it ends with, if
it ends. `drains` says that it does end: a pass that is not the last one
takes a full batch, and the roster of its core gets shorter. What is
offered are the rosters as they stood in the beginning, so the size of a
batch leaves no trace. `drainAll_moves_all` says all this of a whole
pipeline, in any state of the slots and the lanes.
-/

set_option autoImplicit false

namespace RuleTrace

namespace Outlet

/-! ### The counters -/

/-- How many flushed records have met their fate at the lanes. -/
def settled (o : Outlet) : UInt64 := o.counters.get .flushed + o.counters.get .outputDropped

/-- A record that is offered is flushed or dropped, and nothing else is
counted. -/
theorem counters_publishFlushed (core : Nat) (o : Outlet) (r : Record) :
    ∃ k, (k = .flushed ∨ k = .outputDropped) ∧
      (publishFlushed core o r).counters = o.counters.bump k := by
  rw [publishFlushed]
  rcases o.publish_cases core r with ⟨d, -, ho⟩ | ⟨e, -, ho⟩ <;> rw [ho]
  · exact ⟨.flushed, .inl rfl, rfl⟩
  · exact ⟨.outputDropped, .inr rfl, rfl⟩

/-- Each record that is offered meets its fate once. -/
theorem settled_offerAll (o : Outlet) (offers : List (Nat × Record)) :
    (o.offerAll offers).settled = o.settled + UInt64.ofNat offers.length := by
  induction offers generalizing o with
  | nil => exact (UInt64.add_zero _).symm
  | cons x offers ih =>
    have hone : (publishFlushed x.1 o x.2).settled = o.settled + 1 := by
      obtain ⟨k, hk, hcounters⟩ := counters_publishFlushed x.1 o x.2
      rw [settled, settled, hcounters, Counters.get_bump, Counters.get_bump]
      rcases hk with rfl | rfl <;> simp only [reduceCtorEq, if_true, if_false] <;> grind
    show ((publishFlushed x.1 o x.2).offerAll offers).settled = _
    rw [ih, hone, List.length_cons, UInt64.ofNat_add]
    grind

/-- Offering moves no counter but those of the two fates. -/
theorem get_offerAll (o : Outlet) (offers : List (Nat × Record)) {k : Counter}
    (hflushed : k ≠ .flushed) (hdropped : k ≠ .outputDropped) :
    (o.offerAll offers).counters.get k = o.counters.get k := by
  induction offers generalizing o with
  | nil => rfl
  | cons x offers ih =>
    obtain ⟨j, hj, hcounters⟩ := counters_publishFlushed x.1 o x.2
    have hother : j ≠ k := by
      rintro rfl
      exact hj.elim hflushed hdropped
    show ((publishFlushed x.1 o x.2).offerAll offers).counters.get k = _
    rw [ih, hcounters, Counters.get_bump, if_neg hother]

/-! ### The loop without a bound -/

/-- What a pass offers to the lanes. -/
def offersOf (a : Aggregation) (batch core : Nat) : List (Nat × Record) :=
  (a.taken core batch).map fun r => (core, r)

/-- Passes over one core, made until none of its ids waits or a pass does
nothing, come to an end: the records that they offer, and how many they
take out with the slots and the outlet that they leave. -/
inductive DrainsCore (batch core : Nat) :
    Aggregation → Outlet → List (Nat × Record) → Nat × Aggregation × Outlet → Prop where
  | last {a b : Aggregation} {o p : Outlet} {report : DrainReport}
      (hpass : flushCore a o batch core = (report, b, p))
      (hlast : report.remaining = 0 ∨ report.emitted + report.missed = 0) :
      DrainsCore batch core a o (offersOf a batch core) (report.emitted, b, p)
  | more {a b c : Aggregation} {o p q : Outlet} {report : DrainReport}
      {offers : List (Nat × Record)} {n : Nat}
      (hpass : flushCore a o batch core = (report, b, p))
      (hmore : ¬ (report.remaining = 0 ∨ report.emitted + report.missed = 0))
      (hrest : DrainsCore batch core b p offers (n, c, q)) :
      DrainsCore batch core a o (offersOf a batch core ++ offers) (report.emitted + n, c, q)

/-- The same for several cores, one after another. -/
inductive Drains (batch : Nat) :
    List Nat → Aggregation → Outlet → List (Nat × Record) → Nat × Aggregation × Outlet → Prop where
  | nil {a : Aggregation} {o : Outlet} : Drains batch [] a o [] (0, a, o)
  | cons {core : Nat} {cores : List Nat} {a b c : Aggregation} {o p q : Outlet}
      {offers others : List (Nat × Record)} {n m : Nat}
      (hcore : DrainsCore batch core a o offers (n, b, p))
      (hcores : Drains batch cores b p others (m, c, q)) :
      Drains batch (core :: cores) a o (offers ++ others) (n + m, c, q)

section
variable {storeCapacity queueCapacity : Nat} {a : Aggregation}

/-- Without their cores the offers are the rosters, one after another. -/
theorem map_snd_rosterOffers (a : Aggregation) (cores : List Nat) :
    (rosterOffers a cores).map Prod.snd = cores.flatMap a.roster := by
  rw [rosterOffers, List.map_flatMap]
  simp only [List.map_map, Function.comp_def, List.map_id']

/-- The offers are what waits on the cores. -/
theorem map_some_rosterOffers (h : a.Sound storeCapacity queueCapacity) (cores : List Nat) :
    (rosterOffers a cores).map (fun x => (x.1, some x.2))
      = cores.flatMap fun core => (a.waitingOn core).map fun r => (core, r) := by
  rw [rosterOffers, List.map_flatMap]
  simp only [h.waitingOn_eq, List.map_map, Function.comp_def]

/-- The loop over one core ends when its roster is empty, and it has
offered the whole roster by then. -/
theorem drainsCore (h : a.Sound storeCapacity queueCapacity) (hattempts : 0 < a.attempts)
    {batch : Nat} (hbatch : 0 < batch) (core : Nat) (o : Outlet) :
    DrainsCore batch core a o ((a.roster core).map fun r => (core, r))
      ((a.roster core).length, a.setRoster storeCapacity queueCapacity core [],
        (a.roster core).foldl (publishFlushed core) o) := by
  -- The length of the roster falls, for each pass but the last takes a full batch.
  generalize hlength : (a.roster core).length = length
  induction length using Nat.strongRecOn generalizing a o with
  | _ length ih =>
    have hpass := flushCore_eq h hattempts o batch core
    have hoffers : offersOf a batch core = ((a.roster core).take batch).map fun r => (core, r) := by
      rw [offersOf, Aggregation.taken, h.drain_eq core hattempts]
      rfl
    by_cases hlast : (a.roster core).length ≤ batch
    · -- The batch holds the whole roster.
      have hend := DrainsCore.last hpass (.inl (Nat.sub_eq_zero_of_le hlast))
      rw [hoffers, List.take_of_length_le hlast, List.drop_eq_nil_of_le hlast] at hend
      dsimp only at hend
      rwa [Nat.min_eq_right hlast, hlength] at hend
    · have hroster : (a.setRoster storeCapacity queueCapacity core
          ((a.roster core).drop batch)).roster core = (a.roster core).drop batch :=
        Aggregation.roster_setRoster_drop core batch
      have hrest := ih (length - batch) (by omega) (h.setRoster_drop core batch) hattempts
        (((a.roster core).take batch).foldl (publishFlushed core) o)
        (by rw [hroster, List.length_drop, hlength])
      rw [hroster, Aggregation.setRoster_setRoster, ← List.foldl_append,
        List.take_append_drop] at hrest
      have hgo := DrainsCore.more hpass (by dsimp only; omega) hrest
      rw [hoffers, ← List.map_append, List.take_append_drop] at hgo
      dsimp only at hgo
      rwa [show min batch (a.roster core).length + (length - batch) = length by omega] at hgo

/-- The loop over cores, each given once, ends when their rosters are
empty. Emptying one core leaves the rosters of the others, so all are
offered as they stood in the beginning. -/
theorem drains (h : a.Sound storeCapacity queueCapacity) (hattempts : 0 < a.attempts)
    {batch : Nat} (hbatch : 0 < batch) {cores : List Nat} (hcores : cores.Nodup) (o : Outlet) :
    Drains batch cores a o (rosterOffers a cores)
      ((rosterOffers a cores).length, emptied storeCapacity queueCapacity a cores,
        o.offerAll (rosterOffers a cores)) := by
  induction cores generalizing a o with
  | nil => exact .nil
  | cons core cores ih =>
    obtain ⟨hnot, hrest⟩ := List.nodup_cons.mp hcores
    have hfirst := drainsCore h hattempts hbatch core o
    -- The first core has an empty roster by then, and the others have theirs as before.
    have hnext := ih (h.setRoster core Roster.distinct_nil (Nat.zero_le _)) hattempts hrest
      ((a.roster core).foldl (publishFlushed core) o)
    rw [rosterOffers_setRoster hnot] at hnext
    have hall := Drains.cons hfirst hnext
    rw [← rosterOffers_cons] at hall
    rw [length_rosterOffers_cons, offerAll_rosterOffers_cons]
    exact hall

end

end Outlet

namespace Aggregation

/-- Slots of which no roster has a record are fresh slots. -/
theorem Sound.slot_of_roster_eq_nil {storeCapacity queueCapacity : Nat} {a : Aggregation}
    (h : a.Sound storeCapacity queueCapacity) {core : Nat} (hroster : a.roster core = [])
    {g : Guarded Slot} (hg : a.cores.get? core = some g) :
    g = .new (.empty storeCapacity queueCapacity) := by
  have hcore : core < a.coreCount := (List.getElem?_eq_some_iff.mp hg).1
  have hslot := h.slot core hcore
  rw [hg, hroster] at hslot
  exact Option.some.inj hslot

end Aggregation

namespace Pipeline

/-- Slots in any state that calls on the cores can bring about, lanes in
any state, and an attempt at the locks.

Then there are offers, slots and an outlet, the same for every
configuration and so for every batch that can be configured, with which
draining everything ends: the unbounded loop over the cores makes these
offers and leaves these slots and this outlet, and what is run gives the
same. The number of records that were stored is returned. The offers are
core by core what waits there, the oldest first, each stored record is
among them once, and the outlet is what making them leads to. The slots
are empty and their locks are free. Each record was counted as flushed
or as dropped, and nothing else was counted. -/
theorem drainAll_moves_all (cores storeCapacity queueCapacity attempts : Nat)
    (hattempts : 0 < attempts) (uses : List (Nat × SlotCall)) (o : Outlet) :
    let a := (Aggregation.new cores storeCapacity queueCapacity attempts).afterUses uses
    ∃ (offers : List (Nat × Record)) (b : Aggregation) (q : Outlet),
      (∀ c : Config,
        let p := { new c cores with slots := some a, outlet := o }
        Outlet.Drains p.batch (List.range a.coreCount) a o offers (a.stored.length, b, q) ∧
        p.drainAll = (a.stored.length, { p with slots := some b, outlet := q })) ∧
      offers.map (fun x => (x.1, some x.2))
        = (List.range a.coreCount).flatMap (fun core => (a.waitingOn core).map fun r => (core, r)) ∧
      (offers.map Prod.snd).Perm a.stored ∧
      q = o.offerAll offers ∧
      (∀ core g, b.cores.get? core = some g → g = .new (.empty storeCapacity queueCapacity)) ∧
      q.counters.get .flushed + q.counters.get .outputDropped
        = o.counters.get .flushed + o.counters.get .outputDropped
          + UInt64.ofNat a.stored.length ∧
      ∀ k, k ≠ .flushed → k ≠ .outputDropped → q.counters.get k = o.counters.get k := by
  intro a
  have h : a.Sound storeCapacity queueCapacity :=
    (Aggregation.sound_new cores storeCapacity queueCapacity attempts).afterUses uses
  have hlock : 0 < a.attempts := by
    rwa [show a.attempts = attempts from Aggregation.attempts_afterUses ..]
  -- The offers are named first, for neither they nor what they lead to depend on the batch.
  let offers := Outlet.rosterOffers a (List.range a.coreCount)
  have hstored : offers.map Prod.snd = a.stored := by
    rw [Aggregation.stored_eq_flatMap_roster]
    exact Outlet.map_snd_rosterOffers a _
  have hlength : offers.length = a.stored.length := by rw [← hstored, List.length_map]
  refine ⟨offers, Outlet.emptied storeCapacity queueCapacity a (List.range a.coreCount),
    o.offerAll offers, fun c => ?_, Outlet.map_some_rosterOffers h _, .of_eq hstored,
    rfl, fun core g hg => ?_, ?_, ?_⟩
  · have hbatch : 0 < (new c cores).batch := batch_new_pos c cores
    refine ⟨hlength ▸ Outlet.drains h hlock hbatch List.nodup_range o, ?_⟩
    have hrun : Outlet.drainAll a o (new c cores).batch = (offers.length, _, o.offerAll offers) :=
      Outlet.drainCores_eq h hlock hbatch List.nodup_range o
    rw [drainAll]
    simp only [hrun, hlength]
  · exact (Outlet.sound_emptied h _).slot_of_roster_eq_nil (Outlet.roster_emptied_range core) hg
  · rw [← hlength]
    exact Outlet.settled_offerAll o offers
  · intro k hflushed hdropped
    exact Outlet.get_offerAll o offers hflushed hdropped

/-- Two records wait on the second of two cores and one on the first, and
each lane has room for one. Draining in batches of one, which is what a
configured zero means, and in batches of a thousand takes out three and
leaves the same lanes and counters. -/
theorem drainAll_moves_all_in_any_batches :
    let r : UInt32 → Record := fun id => { (default : Record) with id := id, count := 1 }
    let a := (Aggregation.new 2 4 4 3).afterUses
      [(1, .absorb (r 7)), (0, .absorb (r 8)), (1, .absorb (r 9))]
    let o : Outlet := ⟨.new .multiplexed 2 1, .zero⟩
    let ones := { new { Config.standard with flushBatch := 0 } 2 with slots := some a, outlet := o }
    let thousands := { new Config.standard 2 with slots := some a, outlet := o }
    0 < 3 ∧ ones.batch = 1 ∧ thousands.batch = 1000 ∧
    ones.drainAll.1 = 3 ∧ thousands.drainAll.1 = 3 ∧
    ones.drainAll.2.outlet = thousands.drainAll.2.outlet := by
  intro r a o ones thousands
  obtain ⟨offers, b, q, hdrain, -⟩ := drainAll_moves_all 2 4 4 3 (by decide)
    [(1, .absorb (r 7)), (0, .absorb (r 8)), (1, .absorb (r 9))] o
  have hones : ones.drainAll = _ := (hdrain { Config.standard with flushBatch := 0 }).2
  have hthousands : thousands.drainAll = _ := (hdrain Config.standard).2
  have hstored : a.stored.length = 3 := rfl
  rw [hones, hthousands]
  exact ⟨by decide, rfl, rfl, hstored, hstored, rfl⟩

end Pipeline

end RuleTrace
