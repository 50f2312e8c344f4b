import RuleTrace.Outlet
import RuleTrace.Proofs.Aggregation.Cores
import RuleTrace.Proofs.Output.Channel

/-!
# `RuleTrace.Proofs.Outlet`: flush passes

A flush pass moves records from the slot of a core to the lanes.
`flushCore_cases` says all that a pass does when the slots are sound: it
fails on the lock, or it takes records out, misses none, and offers each
of them once. The lanes take what they can (`channel_flushed`), the rest
is refused (`refusedBy`).

Draining everything is nothing but passes: `passes` lists their cores in
order, and `drainAll_eq_flushes` says that making these passes one
after another is the same. So what a pass preserves, draining
preserves.

With an attempt at the locks and a batch that is not empty the passes
over a core end when its roster is empty, well within their number
(`drainCore_eq`). So draining several cores offers their rosters as they
stood in the beginning (`rosterOffers`) and leaves these cores empty
(`drainCores_eq`), and in the end no slot holds a record
(`stored_drainAll`).
-/

set_option autoImplicit false

namespace RuleTrace.Outlet

/-! ### Publishing with the counters -/

/-- The outlet takes a record or counts it as dropped. -/
theorem publish_cases (o : Outlet) (core : Nat) (r : Record) :
    (∃ d, o.channel.publish core r = .ok d ∧
      o.publish core r = (.ok (), { o with channel := d })) ∨
    (∃ e, o.channel.publish core r = .error e ∧
      o.publish core r = (.error e, o.bump .outputDropped)) := by
  rw [publish]
  cases h : o.channel.publish core r with
  | ok d => exact .inl ⟨d, rfl, rfl⟩
  | error e => exact .inr ⟨e, rfl, rfl⟩

/-- Offering flushed records is offering them to the lanes. -/
theorem channel_flushed (core : Nat) (o : Outlet) (rs : List Record) :
    (rs.foldl (publishFlushed core) o).channel = o.channel.publishAll core rs := by
  induction rs generalizing o with
  | nil => rfl
  | cons r rs ih =>
    rw [List.foldl_cons, ih, Channel.publishAll, publishFlushed]
    rcases o.publish_cases core r with ⟨d, hd, ho⟩ | ⟨e, he, ho⟩
    · rw [ho, hd]
      rfl
    · rw [ho, he]
      rfl

/-- A pass that misses nothing counts nothing as missed. -/
theorem countMissed_zero (o : Outlet) : o.countMissed 0 = o := by
  have hcounters : o.counters.add .flushMiss (UInt64.ofNat 0) = o.counters := by
    show (⟨o.counters.values.set 7 (o.counters.values[7] + 0) _⟩ : Counters) = o.counters
    rw [UInt64.add_zero, Vector.set_getElem_self]
  rw [countMissed, hcounters]

/-! ### One pass -/

/-- The records of a pass that the lanes do not take. -/
def refusedBy (a : Aggregation) (o : Outlet) (batch core : Nat) : List Record :=
  match (a.drain core batch).1 with
  | .ok (rs, _) => o.channel.refused core rs
  | .error _ => []

/-- Apart from what it counts, a pass reports what the slots answer,
leaves the slots that they leave and offers what they give out. -/
theorem flushCore_parts (a : Aggregation) (o : Outlet) (batch core : Nat) :
    (flushCore a o batch core).1
      = (match (a.drain core batch).1 with
        | .ok (_, report) => report
        | .error _ => default) ∧
    (flushCore a o batch core).2.1 = (a.drain core batch).2 ∧
    (flushCore a o batch core).2.2.channel
      = o.channel.publishAll core (a.taken core batch) := by
  rw [flushCore, Aggregation.taken]
  split <;> rename_i h <;> rw [h]
  · exact ⟨rfl, rfl, channel_flushed ..⟩
  · exact ⟨rfl, rfl, rfl⟩

section
variable {storeCapacity queueCapacity : Nat} {a : Aggregation}

/-- A pass fails on the lock and only counts that, or it takes records
out, misses none and offers each of them. -/
theorem flushCore_cases (h : a.Sound storeCapacity queueCapacity) (o : Outlet)
    (batch core : Nat) :
    (flushCore a o batch core = (default, a, (o.bump .readWait).bump .lockContended) ∧
      refusedBy a o batch core = []) ∨
    (∃ rs remaining b,
      flushCore a o batch core
        = (⟨rs.length, 0, remaining⟩, b, rs.foldl (publishFlushed core) o) ∧
      refusedBy a o batch core = o.channel.refused core rs ∧
      b.Sound storeCapacity queueCapacity ∧
      ∀ f, tally f a.stored = tally f rs + tally f b.stored) := by
  rw [flushCore, refusedBy]
  rcases h.drain_cases core batch with ⟨e, he⟩ | ⟨rs, remaining, b, he, hb, htally⟩
  · rw [he]
    exact .inl ⟨rfl, rfl⟩
  · rw [he]
    refine .inr ⟨rs, remaining, b, ?_, rfl, hb, htally⟩
    simp only [countMissed_zero]

/-- With an attempt at the lock a pass takes the first records of the
roster. -/
theorem flushCore_eq (h : a.Sound storeCapacity queueCapacity) (hattempts : 0 < a.attempts)
    (o : Outlet) (batch core : Nat) :
    flushCore a o batch core
      = (⟨min batch (a.roster core).length, 0, (a.roster core).length - batch⟩,
        a.setRoster storeCapacity queueCapacity core ((a.roster core).drop batch),
        ((a.roster core).take batch).foldl (publishFlushed core) o) := by
  rw [flushCore, h.drain_eq core hattempts]
  simp only [Roster.drain, countMissed_zero]

end

/-! ### Draining as a list of passes -/

/-- Passes over the given cores, one after another. -/
def flushes (batch : Nat) : List Nat → Aggregation → Outlet → Aggregation × Outlet
  | [], a, o => (a, o)
  | core :: cores, a, o =>
    let (_, a, o) := flushCore a o batch core
    flushes batch cores a o

/-- The passes that drain one core. -/
def passesOn (batch core : Nat) : Nat → Aggregation → Outlet → List Nat
  | 0, _, _ => []
  | fuel + 1, a, o =>
    let (report, a, o) := flushCore a o batch core
    if report.remaining = 0 ∨ report.emitted + report.missed = 0 then [core]
    else core :: passesOn batch core fuel a o

/-- The passes that drain the given cores. -/
def passes (batch : Nat) : List Nat → Aggregation → Outlet → List Nat
  | [], _, _ => []
  | core :: cores, a, o =>
    let here := passesOn batch core (pendingOn a core + 1) a o
    let (a, o) := flushes batch here a o
    here ++ passes batch cores a o

/-- Passes may be cut anywhere. -/
theorem flushes_append (batch : Nat) (cores others : List Nat) (a : Aggregation) (o : Outlet) :
    flushes batch (cores ++ others) a o
      = flushes batch others (flushes batch cores a o).1 (flushes batch cores a o).2 := by
  induction cores generalizing a o with
  | nil => rfl
  | cons core cores ih =>
    rw [List.cons_append, flushes, flushes]
    exact ih _ _

/-- Draining one core is making its passes. -/
theorem drainCore_eq_flushes (batch core fuel : Nat) (a : Aggregation) (o : Outlet) :
    (drainCore batch core fuel a o).2 = flushes batch (passesOn batch core fuel a o) a o := by
  induction fuel generalizing a o with
  | zero => rfl
  | succ fuel ih =>
    rw [drainCore, passesOn]
    generalize hpass : flushCore a o batch core = pass
    obtain ⟨report, b, p⟩ := pass
    dsimp only
    -- Both recursions end with the same report.
    by_cases hlast : report.remaining = 0 ∨ report.emitted + report.missed = 0
    · rw [if_pos hlast, if_pos hlast, flushes, hpass]
      rfl
    · rw [if_neg hlast, if_neg hlast, flushes, hpass]
      exact ih b p

/-- Draining cores is making the passes of each, one core after the other. -/
theorem drainCores_eq_flushes (batch : Nat) (cores : List Nat) (a : Aggregation) (o : Outlet) :
    (drainCores batch cores a o).2 = flushes batch (passes batch cores a o) a o := by
  induction cores generalizing a o with
  | nil => rfl
  | cons core cores ih =>
    rw [drainCores, passes, flushes_append, ← drainCore_eq_flushes]
    exact ih _ _

/-- Draining all cores is a sequence of passes. -/
theorem drainAll_eq_flushes (a : Aggregation) (o : Outlet) (batch : Nat) :
    (drainAll a o batch).2 = flushes batch (passes batch (List.range a.coreCount) a o) a o :=
  drainCores_eq_flushes batch _ a o

/-! ### Draining to the end -/

section
variable {storeCapacity queueCapacity : Nat} {a : Aggregation}

/-- The ids that wait on a core are those of its roster. -/
theorem pendingOn_eq (h : a.Sound storeCapacity queueCapacity) (core : Nat) :
    pendingOn a core = (a.roster core).length := by
  by_cases hcore : core < a.coreCount
  · rw [pendingOn, h.slot core hcore]
    exact Roster.length_ids _
  · have hcore := Nat.le_of_not_lt hcore
    rw [pendingOn, PerCore.get?_eq_none hcore, Aggregation.roster_of_coreCount_le hcore]
    rfl

/-- Passes enough for the roster of a core move all of it to the
lanes. -/
theorem drainCore_eq (h : a.Sound storeCapacity queueCapacity) (hattempts : 0 < a.attempts)
    {batch : Nat} (hbatch : 0 < batch) (core : Nat) {fuel : Nat}
    (hfuel : (a.roster core).length < fuel) (o : Outlet) :
    drainCore batch core fuel a o
      = ((a.roster core).length, a.setRoster storeCapacity queueCapacity core [],
        (a.roster core).foldl (publishFlushed core) o) := by
  induction fuel generalizing a o with
  | zero => omega
  | succ fuel ih =>
    rw [drainCore, flushCore_eq h hattempts]
    dsimp only
    by_cases hlast : (a.roster core).length ≤ batch
    · -- The batch holds the whole roster.
      rw [if_pos (.inl (by omega)), List.drop_eq_nil_of_le hlast, List.take_of_length_le hlast,
        Nat.min_eq_right hlast]
    · -- A full batch leaves, and the passes that are left suffice for the rest.
      have hroster : (a.setRoster storeCapacity queueCapacity core
          ((a.roster core).drop batch)).roster core = (a.roster core).drop batch :=
        Aggregation.roster_setRoster_drop core batch
      have hrest := ih (h.setRoster_drop core batch) hattempts
        (by rw [hroster, List.length_drop]; omega)
        (((a.roster core).take batch).foldl (publishFlushed core) o)
      rw [if_neg (by omega), hrest, hroster, Aggregation.setRoster_setRoster, List.length_drop,
        ← List.foldl_append, List.take_append_drop]
      congr 1
      omega

/-- The records of the given cores, each with its core, in the order of
the rosters. -/
def rosterOffers (a : Aggregation) (cores : List Nat) : List (Nat × Record) :=
  cores.flatMap fun core => (a.roster core).map fun r => (core, r)

/-- The outlet after records were offered to it. -/
def offerAll (o : Outlet) (offers : List (Nat × Record)) : Outlet :=
  offers.foldl (fun o x => publishFlushed x.1 o x.2) o

/-- The slots with the given cores emptied. -/
def emptied (storeCapacity queueCapacity : Nat) (a : Aggregation) (cores : List Nat) :
    Aggregation :=
  cores.foldl (fun a core => a.setRoster storeCapacity queueCapacity core []) a

/-- The offers of the first core come first. -/
theorem rosterOffers_cons (a : Aggregation) (core : Nat) (cores : List Nat) :
    rosterOffers a (core :: cores)
      = ((a.roster core).map fun r => (core, r)) ++ rosterOffers a cores := List.flatMap_cons

/-- A core adds as many offers as its roster has records. -/
theorem length_rosterOffers_cons (a : Aggregation) (core : Nat) (cores : List Nat) :
    (rosterOffers a (core :: cores)).length
      = (a.roster core).length + (rosterOffers a cores).length := by
  rw [rosterOffers_cons, List.length_append, List.length_map]

/-- Offering to the lanes begins with the roster of the first core. -/
theorem offerAll_rosterOffers_cons (a : Aggregation) (o : Outlet) (core : Nat)
    (cores : List Nat) :
    o.offerAll (rosterOffers a (core :: cores))
      = ((a.roster core).foldl (publishFlushed core) o).offerAll (rosterOffers a cores) := by
  rw [rosterOffers_cons, offerAll, List.foldl_append, List.foldl_map]
  rfl

/-- The roster of one core does not matter for the others. -/
theorem rosterOffers_setRoster {core : Nat} {cores : List Nat} (hcore : core ∉ cores)
    (l : Roster) :
    rosterOffers (a.setRoster storeCapacity queueCapacity core l) cores = rosterOffers a cores := by
  rw [rosterOffers, rosterOffers, List.flatMap_def, List.flatMap_def]
  refine congrArg List.flatten (List.map_congr_left fun other hother => ?_)
  have hne : other ≠ core := fun e => hcore (e ▸ hother)
  rw [Aggregation.roster_setRoster_of_ne hne]

/-- Emptying cores leaves the rosters of the others. -/
theorem roster_emptied (cores : List Nat) (core : Nat) :
    (emptied storeCapacity queueCapacity a cores).roster core
      = if core ∈ cores then [] else a.roster core := by
  induction cores generalizing a with
  | nil => rw [if_neg List.not_mem_nil]; rfl
  | cons first cores ih =>
    show (emptied storeCapacity queueCapacity
      (a.setRoster storeCapacity queueCapacity first []) cores).roster core = _
    rw [ih]
    -- A core is emptied with the first one, or later, or not at all.
    by_cases hmem : core ∈ cores
    · rw [if_pos hmem, if_pos (List.mem_cons_of_mem _ hmem)]
    · rw [if_neg hmem]
      by_cases heq : core = first
      · subst heq
        have hempty : (a.setRoster storeCapacity queueCapacity core []).roster core = [] := by
          rw [← List.drop_length (l := a.roster core)]
          exact Aggregation.roster_setRoster_drop core _
        rw [hempty, if_pos List.mem_cons_self]
      · rw [if_neg (by simp [heq, hmem]), Aggregation.roster_setRoster_of_ne heq]

/-- With all cores emptied no roster has a record. -/
theorem roster_emptied_range (core : Nat) :
    (emptied storeCapacity queueCapacity a (List.range a.coreCount)).roster core = [] := by
  rw [roster_emptied]
  by_cases hcore : core < a.coreCount
  · rw [if_pos (List.mem_range.mpr hcore)]
  · rw [Aggregation.roster_of_coreCount_le (Nat.le_of_not_lt hcore), ite_self]

/-- Emptied slots are sound. -/
theorem sound_emptied (h : a.Sound storeCapacity queueCapacity) (cores : List Nat) :
    (emptied storeCapacity queueCapacity a cores).Sound storeCapacity queueCapacity := by
  induction cores generalizing a with
  | nil => exact h
  | cons core cores ih => exact ih (h.setRoster core Roster.distinct_nil (Nat.zero_le _))

/-- Draining cores, each given once, offers their rosters and empties
them. -/
theorem drainCores_eq (h : a.Sound storeCapacity queueCapacity) (hattempts : 0 < a.attempts)
    {batch : Nat} (hbatch : 0 < batch) {cores : List Nat} (hcores : cores.Nodup) (o : Outlet) :
    drainCores batch cores a o
      = ((rosterOffers a cores).length, emptied storeCapacity queueCapacity a cores,
        o.offerAll (rosterOffers a cores)) := by
  induction cores generalizing a o with
  | nil => rfl
  | cons core cores ih =>
    obtain ⟨hnot, hrest⟩ := List.nodup_cons.mp hcores
    -- One pass more than ids wait on the core is enough for its roster.
    have hfirst := drainCore_eq h hattempts hbatch core
      (show (a.roster core).length < pendingOn a core + 1 by rw [pendingOn_eq h]; omega) o
    have hnext := ih (h.setRoster core Roster.distinct_nil (Nat.zero_le _)) hattempts hrest
      ((a.roster core).foldl (publishFlushed core) o)
    rw [drainCores, hfirst]
    dsimp only
    rw [hnext, rosterOffers_setRoster hnot, length_rosterOffers_cons, offerAll_rosterOffers_cons]
    rfl

/-- Draining everything leaves nothing in the slots. -/
theorem stored_drainAll (h : a.Sound storeCapacity queueCapacity) (hattempts : 0 < a.attempts)
    {batch : Nat} (hbatch : 0 < batch) (o : Outlet) :
    (drainAll a o batch).2.1.stored = [] := by
  refine Aggregation.stored_eq_nil fun core => ?_
  rw [drainAll, drainCores_eq h hattempts hbatch List.nodup_range]
  exact roster_emptied_range core

end

end RuleTrace.Outlet
