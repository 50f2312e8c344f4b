import RuleTrace.Proofs.Aggregation.Roster
import RuleTrace.Proofs.Tally

/-!
# `RuleTrace.Proofs.Aggregation.Cores`: the slots of all cores

Each core has a slot of its own, so all slots together are a roster for
each core (`Aggregation.roster`). `Aggregation.Sound` is the invariant:
every lock is free and every slot is the layout of its roster. Under
it, absorbing and draining change the roster of one core and nothing
else (`absorb_eq`, `drain_eq`), unless the core has no slot or no
attempt at the lock is allowed, and then they change nothing at all.

`slot_behaves_as_roster` says what this means for one core over a whole
sequence of calls. The cases `absorb_cases` and `drain_cases` say it
for sums over everything that is stored, whatever is summed up; the
accounts of a pipeline need no more of the slots.
-/

set_option autoImplicit false

namespace RuleTrace

/-! ### Tables -/

namespace PerCore

variable {α : Type}

/-- A table is told by its slots. -/
theorem eq_of_slots {t u : PerCore α} (h : t.slots = u.slots) : t = u := by
  cases t
  cases u
  cases h
  rfl

/-- Another value leaves the number of slots. -/
@[simp] theorem size_set (t : PerCore α) (core : Nat) (value : α) :
    (t.set core value).size = t.size := List.length_set

/-- A table has a slot for each core, in the bounds. -/
@[simp] theorem size_build (cores : Nat) (value : Nat → α) :
    (build cores value).size = slotCount cores := by
  simp [build, size]

/-- A slot has the value for its core. -/
theorem get?_build {cores core : Nat} (value : Nat → α) (h : core < slotCount cores) :
    (build cores value).get? core = some (value core) := by
  simp [build, get?, h]

/-- Behind the last slot there is none. -/
theorem get?_eq_none {t : PerCore α} {core : Nat} (h : t.size ≤ core) : t.get? core = none :=
  List.getElem?_eq_none h

/-- The value that was set is found. -/
theorem get?_set_self {t : PerCore α} {core : Nat} (h : core < t.size) (value : α) :
    (t.set core value).get? core = some value := List.getElem?_set_self h

/-- The others are found as they were. -/
theorem get?_set_of_ne (t : PerCore α) {core other : Nat} (h : other ≠ core) (value : α) :
    (t.set core value).get? other = t.get? other := List.getElem?_set_ne fun e => h e.symm

/-- Writing back what is there changes nothing. -/
theorem set_of_get? {t : PerCore α} {core : Nat} {value : α} (h : t.get? core = some value) :
    t.set core value = t := by
  refine eq_of_slots (List.ext_getElem? fun i => ?_)
  show (t.slots.set core value)[i]? = t.slots[i]?
  by_cases hi : i = core
  · subst hi
    have hlt : i < t.slots.length := (List.getElem?_eq_some_iff.mp h).1
    rw [List.getElem?_set_self hlt]
    exact h.symm
  · exact List.getElem?_set_ne fun e => hi e.symm

/-- Behind the last slot nothing is set. -/
theorem set_of_size_le {t : PerCore α} {core : Nat} (h : t.size ≤ core) (value : α) :
    t.set core value = t := eq_of_slots (List.set_eq_of_length_le h)

end PerCore

/-! ### Locks -/

namespace Guarded

variable {α β : Type}

/-- With an attempt a free lock is had, and it is free again
afterwards. -/
theorem withLock_new {attempts : Nat} (h : 0 < attempts) (value : α) (operation : α → β × α) :
    (Guarded.new value).withLock attempts operation
      = (.ok (operation value).1, .new (operation value).2) := by
  simp only [withLock, acquire, new, Lock.acquire, Lock.free, h, and_self, if_true]
  rfl

/-- Without an attempt no lock is had. -/
theorem withLock_of_eq_zero {attempts : Nat} (h : attempts = 0) (g : Guarded α)
    (operation : α → β × α) : g.withLock attempts operation = (.error ⟨attempts⟩, g) := by
  have hnot : ¬ 0 < attempts := by omega
  simp only [withLock, acquire, Lock.acquire, hnot, false_and, if_false]
  rfl

end Guarded

/-! ### One roster for each core -/

namespace Aggregation

/-- The roster of a core, empty for a core without a slot. -/
def roster (a : Aggregation) (core : Nat) : Roster :=
  ((a.cores.get? core).map fun g => g.value.records).getD []

/-- All records that are stored. -/
def stored (a : Aggregation) : List Record := a.cores.slots.flatMap fun g => g.value.records

/-- The ids that wait on a core, the oldest first. -/
def pendingIds (a : Aggregation) (core : Nat) : List UInt32 :=
  ((a.cores.get? core).map fun g => g.value.pending.items).getD []

/-- For each id that waits on a core, in order, the record stored under
it. -/
def waitingOn (a : Aggregation) (core : Nat) : List (Option Record) :=
  ((a.cores.get? core).map fun g => g.value.pending.items.map g.value.store.get?).getD []

/-- The records that a pass takes out. -/
def taken (a : Aggregation) (core max : Nat) : List Record :=
  match (a.drain core max).1 with
  | .ok (rs, _) => rs
  | .error _ => []

/-- An operation on a core runs: there is a slot, and an attempt at its
lock is allowed. -/
def Reaches (a : Aggregation) (core : Nat) : Prop := core < a.coreCount ∧ 0 < a.attempts

/-- The slots with another one, behind a free lock, on one core. -/
def setSlot (a : Aggregation) (core : Nat) (s : Slot) : Aggregation :=
  { a with cores := a.cores.set core (.new s) }

/-- The slots with another roster on one core. -/
def setRoster (storeCapacity queueCapacity : Nat) (a : Aggregation) (core : Nat) (l : Roster) :
    Aggregation :=
  a.setSlot core (.ofRoster storeCapacity queueCapacity l)

/-- Every slot is the layout of its roster, behind a free lock. -/
structure Sound (storeCapacity queueCapacity : Nat) (a : Aggregation) : Prop where
  slot : ∀ core, core < a.coreCount →
    a.cores.get? core = some (.new (.ofRoster storeCapacity queueCapacity (a.roster core)))
  distinct : ∀ core, (a.roster core).Distinct
  fits : ∀ core, (a.roster core).length ≤ min storeCapacity queueCapacity

section
variable {storeCapacity queueCapacity : Nat} {a : Aggregation}

/-- Another roster leaves the number of cores. -/
@[simp] theorem coreCount_setRoster (core : Nat) (l : Roster) :
    (a.setRoster storeCapacity queueCapacity core l).coreCount = a.coreCount :=
  a.cores.size_set core _

/-- Without a slot there is no roster. -/
theorem roster_of_coreCount_le {core : Nat} (h : a.coreCount ≤ core) : a.roster core = [] := by
  rw [roster, PerCore.get?_eq_none h]
  rfl

/-- Without a slot there is nothing to change. -/
theorem setRoster_of_coreCount_le {core : Nat} (h : a.coreCount ≤ core) (l : Roster) :
    a.setRoster storeCapacity queueCapacity core l = a := by
  rw [setRoster, setSlot, PerCore.set_of_size_le h]

/-- The core has the roster that was set. -/
theorem roster_setRoster_self {core : Nat} (h : core < a.coreCount) (l : Roster) :
    (a.setRoster storeCapacity queueCapacity core l).roster core = l := by
  rw [roster, setRoster, setSlot, PerCore.get?_set_self h]
  exact Slot.records_ofRoster storeCapacity queueCapacity l

/-- The other cores have theirs. -/
theorem roster_setRoster_of_ne {core other : Nat} (h : other ≠ core) (l : Roster) :
    (a.setRoster storeCapacity queueCapacity core l).roster other = a.roster other := by
  rw [roster, setRoster, setSlot, PerCore.get?_set_of_ne _ h]
  rfl

/-- Where the roster gets shorter, it does not matter whether the core has
a slot: without one it is empty before and after. -/
theorem roster_setRoster_drop (core n : Nat) :
    (a.setRoster storeCapacity queueCapacity core ((a.roster core).drop n)).roster core
      = (a.roster core).drop n := by
  by_cases hcore : core < a.coreCount
  · exact roster_setRoster_self hcore _
  · have hcore := Nat.le_of_not_lt hcore
    rw [setRoster_of_coreCount_le hcore, roster_of_coreCount_le hcore, List.drop_nil]

/-- Of two rosters for one core the last one stays. -/
theorem setRoster_setRoster (core : Nat) (l k : Roster) :
    (a.setRoster storeCapacity queueCapacity core l).setRoster storeCapacity queueCapacity core k
      = a.setRoster storeCapacity queueCapacity core k := by
  have hslots : ∀ g h : Guarded Slot, (a.cores.set core g).set core h = a.cores.set core h :=
    fun g h => PerCore.eq_of_slots (List.set_set g)
  simp only [setRoster, setSlot, hslots]

/-- An operation leaves the number of attempts. -/
theorem attempts_onSlot {α : Type} (a : Aggregation) (core : Nat) (operation : Slot → α × Slot) :
    (a.onSlot core operation).2.attempts = a.attempts := by
  rw [onSlot]
  cases a.cores.get? core <;> rfl

/-- An operation leaves the number of cores. -/
theorem coreCount_onSlot {α : Type} (a : Aggregation) (core : Nat)
    (operation : Slot → α × Slot) : (a.onSlot core operation).2.coreCount = a.coreCount := by
  rw [onSlot]
  cases a.cores.get? core with
  | none => rfl
  | some g => exact PerCore.size_set ..

/-- Whatever becomes of the record, the slots are changed by one
operation on one of them. -/
theorem snd_absorb (a : Aggregation) (core : Nat) (r : Record) :
    (a.absorb core r).2 = (a.onSlot core fun s => s.absorb r).2 := by
  rw [absorb]
  split <;> rename_i h <;> rw [h]

/-- So they are by a pass. -/
theorem snd_drain (a : Aggregation) (core max : Nat) :
    (a.drain core max).2 = (a.onSlot core fun s => s.drain max).2 := by
  rw [drain]
  split <;> rename_i h <;> rw [h]

/-- The answer is that of the slot, if there is one and its lock is
had. -/
theorem fst_absorb (a : Aggregation) (core : Nat) (r : Record) :
    (a.absorb core r).1
      = match (a.onSlot core fun s => s.absorb r).1 with
        | none => .fallback .noSlot r
        | some (.error _) => .fallback .contended r
        | some (.ok answer) => answer := by
  rw [absorb]
  split <;> rename_i h <;> rw [h]

/-- The answer to a pass is that of the slot, and without a slot there is
nothing to take. -/
theorem fst_drain (a : Aggregation) (core max : Nat) :
    (a.drain core max).1
      = (a.onSlot core fun s => s.drain max).1.getD (.ok ([], default)) := by
  rw [drain]
  split <;> rename_i h <;> rw [h] <;> rfl

/-- Absorbing leaves the number of attempts. -/
theorem attempts_absorb (a : Aggregation) (core : Nat) (r : Record) :
    (a.absorb core r).2.attempts = a.attempts := by
  rw [snd_absorb, attempts_onSlot]

/-- A pass leaves the number of attempts. -/
theorem attempts_drain (a : Aggregation) (core max : Nat) :
    (a.drain core max).2.attempts = a.attempts := by
  rw [snd_drain, attempts_onSlot]

/-- Absorbing does not bring a core into reach or out of it. -/
theorem reaches_absorb {core other : Nat} {r : Record} :
    (a.absorb other r).2.Reaches core ↔ a.Reaches core := by
  rw [Reaches, Reaches, snd_absorb, coreCount_onSlot, attempts_onSlot]

/-- Nor does a pass. -/
theorem reaches_drain {core other max : Nat} :
    (a.drain other max).2.Reaches core ↔ a.Reaches core := by
  rw [Reaches, Reaches, snd_drain, coreCount_onSlot, attempts_onSlot]

/-- Without rosters nothing is stored. -/
theorem stored_eq_nil (h : ∀ core, a.roster core = []) : a.stored = [] := by
  refine List.flatMap_eq_nil_iff.mpr fun g hg => ?_
  obtain ⟨core, hcore⟩ := List.mem_iff_getElem?.mp hg
  have hroster := h core
  rw [roster, PerCore.get?, hcore] at hroster
  exact hroster

/-- What is stored is what the rosters list, core by core. -/
theorem stored_eq_flatMap_roster : a.stored = (List.range a.coreCount).flatMap a.roster := by
  -- The slots are listed by core number.
  have hslots : ∀ slots : List (Guarded Slot), slots.flatMap (fun g => g.value.records)
      = (List.range slots.length).flatMap
          fun core => ((slots[core]?).map fun g => g.value.records).getD [] := by
    intro slots
    induction slots with
    | nil => rfl
    | cons g slots ih =>
      rw [List.length_cons, List.range_succ_eq_map, List.flatMap_cons, List.flatMap_cons,
        List.flatMap_map, ih]
      rfl
  exact hslots a.cores.slots

/-- There is a slot for each core, in the bounds. -/
@[simp] theorem coreCount_new (cores storeCapacity queueCapacity attempts : Nat) :
    (Aggregation.new cores storeCapacity queueCapacity attempts).coreCount = slotCount cores :=
  PerCore.size_build cores _

/-- Fresh slots have nothing on their rosters. -/
@[simp] theorem roster_new (cores storeCapacity queueCapacity attempts core : Nat) :
    (Aggregation.new cores storeCapacity queueCapacity attempts).roster core = [] := by
  by_cases h : core < slotCount cores
  · rw [roster, Aggregation.new, PerCore.get?_build _ h]
    rfl
  · exact roster_of_coreCount_le (by rw [coreCount_new]; omega)

/-- Fresh slots are the layouts of empty rosters. -/
theorem sound_new (cores storeCapacity queueCapacity attempts : Nat) :
    (Aggregation.new cores storeCapacity queueCapacity attempts).Sound
      storeCapacity queueCapacity where
  slot core h := by
    rw [coreCount_new] at h
    rw [roster_new]
    exact PerCore.get?_build _ h
  distinct core := by
    rw [roster_new]
    exact Roster.distinct_nil
  fits core := by
    rw [roster_new]
    exact Nat.zero_le _

namespace Sound

variable (h : a.Sound storeCapacity queueCapacity)
include h

/-- Another roster without repetition that fits keeps the slots
sound. -/
theorem setRoster (core : Nat) {l : Roster} (hdistinct : l.Distinct)
    (hfits : l.length ≤ min storeCapacity queueCapacity) :
    (a.setRoster storeCapacity queueCapacity core l).Sound storeCapacity queueCapacity := by
  by_cases hcore : core < a.coreCount
  · -- Only this core has another roster, so each clause is about it or as before.
    have hroster : ∀ other, (a.setRoster storeCapacity queueCapacity core l).roster other
        = if other = core then l else a.roster other := by
      intro other
      split
      · rename_i e
        rw [e, roster_setRoster_self hcore]
      · rename_i e
        exact roster_setRoster_of_ne e l
    refine ⟨fun other hother => ?_, fun other => ?_, fun other => ?_⟩
    · rw [coreCount_setRoster] at hother
      rw [hroster]
      split
      · rename_i e
        rw [e]
        exact PerCore.get?_set_self hcore _
      · rename_i e
        exact (PerCore.get?_set_of_ne _ e _).trans (h.slot other hother)
    · rw [hroster]
      split
      · exact hdistinct
      · exact h.distinct other
    · rw [hroster]
      split
      · exact hfits
      · exact h.fits other
  · rwa [setRoster_of_coreCount_le (Nat.le_of_not_lt hcore)]

/-- A shorter roster keeps the slots sound. -/
theorem setRoster_drop (core n : Nat) :
    (a.setRoster storeCapacity queueCapacity core ((a.roster core).drop n)).Sound
      storeCapacity queueCapacity := by
  refine h.setRoster core (Roster.distinct_drop (h.distinct core) n) ?_
  have := h.fits core
  rw [List.length_drop]
  omega

/-- A core that keeps its roster keeps its slot. -/
theorem setRoster_roster (core : Nat) :
    a.setRoster storeCapacity queueCapacity core (a.roster core) = a := by
  by_cases hcore : core < a.coreCount
  · rw [Aggregation.setRoster, setSlot, PerCore.set_of_get? (h.slot core hcore)]
  · exact setRoster_of_coreCount_le (Nat.le_of_not_lt hcore) _

/-! ### One operation on one slot -/

/-- With an attempt at the lock the operation runs on the layout of the
roster, and the lock is free again. -/
theorem onSlot_eq {α : Type} {core : Nat} (hcore : core < a.coreCount) (hattempts : 0 < a.attempts)
    (operation : Slot → α × Slot) :
    a.onSlot core operation
      = (some (.ok (operation (.ofRoster storeCapacity queueCapacity (a.roster core))).1),
        a.setSlot core (operation (.ofRoster storeCapacity queueCapacity (a.roster core))).2) := by
  rw [onSlot, h.slot core hcore]
  simp only [Guarded.withLock_new hattempts]
  rfl

/-- Without an attempt nothing runs. -/
theorem onSlot_of_attempts_eq_zero {α : Type} {core : Nat} (hcore : core < a.coreCount)
    (hattempts : a.attempts = 0) (operation : Slot → α × Slot) :
    a.onSlot core operation = (some (.error ⟨a.attempts⟩), a) := by
  have hslot := h.slot core hcore
  rw [onSlot, hslot]
  simp only [Guarded.withLock_of_eq_zero hattempts]
  rw [PerCore.set_of_get? hslot]

/-- A record is absorbed by the roster of its core. -/
theorem absorb_eq {core : Nat} (hcore : core < a.coreCount) (hattempts : 0 < a.attempts)
    (r : Record) :
    a.absorb core r
      = (((a.roster core).absorb storeCapacity queueCapacity r).1,
        a.setRoster storeCapacity queueCapacity core
          ((a.roster core).absorb storeCapacity queueCapacity r).2) := by
  rw [absorb, h.onSlot_eq hcore hattempts, Slot.absorb_ofRoster]
  rfl

/-- A pass takes from the roster of its core. A core without a slot has
an empty roster, and there is nothing to take. -/
theorem drain_eq (core : Nat) (hattempts : 0 < a.attempts) (max : Nat) :
    a.drain core max
      = (.ok ((a.roster core).drain max).1,
        a.setRoster storeCapacity queueCapacity core ((a.roster core).drain max).2) := by
  by_cases hcore : core < a.coreCount
  · rw [drain, h.onSlot_eq hcore hattempts, Slot.drain_ofRoster (h.distinct core)]
    rfl
  · have hcore := Nat.le_of_not_lt hcore
    have hnone : a.drain core max = (.ok ([], default), a) := by
      rw [drain, onSlot, PerCore.get?_eq_none hcore]
    rw [hnone, roster_of_coreCount_le hcore, setRoster_of_coreCount_le hcore]
    simp [Roster.drain]
    rfl

/-- Out of reach a record is handed back, and nothing changes. -/
theorem absorb_of_not_reaches {core : Nat} (hno : ¬ a.Reaches core) (r : Record) :
    ∃ reason, a.absorb core r = (.fallback reason r, a) := by
  by_cases hcore : core < a.coreCount
  · have hattempts : a.attempts = 0 := Nat.eq_zero_of_not_pos fun hpos => hno ⟨hcore, hpos⟩
    exact ⟨.contended, by rw [absorb, h.onSlot_of_attempts_eq_zero hcore hattempts]⟩
  · exact ⟨.noSlot, by rw [absorb, onSlot, PerCore.get?_eq_none (Nat.le_of_not_lt hcore)]⟩

/-- Out of reach a pass takes nothing, and nothing changes. -/
theorem drain_of_not_reaches {core : Nat} (hno : ¬ a.Reaches core) (max : Nat) :
    (∃ e, a.drain core max = (.error e, a)) ∨ a.drain core max = (.ok ([], default), a) := by
  by_cases hcore : core < a.coreCount
  · have hattempts : a.attempts = 0 := Nat.eq_zero_of_not_pos fun hpos => hno ⟨hcore, hpos⟩
    exact .inl ⟨_, by rw [drain, h.onSlot_of_attempts_eq_zero hcore hattempts]⟩
  · exact .inr (by rw [drain, onSlot, PerCore.get?_eq_none (Nat.le_of_not_lt hcore)])

/-! ### What waits on a core -/

/-- The ids that wait are those of the roster. -/
theorem pendingIds_eq (core : Nat) : a.pendingIds core = (a.roster core).ids := by
  by_cases hcore : core < a.coreCount
  · rw [pendingIds, h.slot core hcore]
    rfl
  · have hcore := Nat.le_of_not_lt hcore
    rw [pendingIds, PerCore.get?_eq_none hcore, roster_of_coreCount_le hcore]
    rfl

/-- Each id that waits has its record in the store. -/
theorem waitingOn_eq (core : Nat) : a.waitingOn core = (a.roster core).map some := by
  by_cases hcore : core < a.coreCount
  · rw [waitingOn, h.slot core hcore]
    show (a.roster core).ids.map (Store.ofRoster storeCapacity (a.roster core)).get? = _
    rw [Roster.ids, List.map_map]
    refine List.map_congr_left fun r hr => ?_
    exact (Store.get?_ofRoster ..).trans (Roster.find?_of_mem (h.distinct core) hr)
  · have hcore := Nat.le_of_not_lt hcore
    rw [waitingOn, PerCore.get?_eq_none hcore, roster_of_coreCount_le hcore]
    rfl

/-! ### What an operation does to a roster -/

/-- Absorbing changes the roster of the core, or hands the record back
out of reach of it. -/
theorem roster_absorb (core : Nat) (r : Record) :
    (a.Reaches core ∧
      (a.absorb core r).1 = ((a.roster core).absorb storeCapacity queueCapacity r).1 ∧
      (a.absorb core r).2.roster core
        = ((a.roster core).absorb storeCapacity queueCapacity r).2) ∨
    (¬ a.Reaches core ∧ ∃ reason, a.absorb core r = (.fallback reason r, a)) := by
  by_cases hreach : a.Reaches core
  · refine .inl ⟨hreach, ?_⟩
    rw [h.absorb_eq hreach.1 hreach.2]
    exact ⟨rfl, roster_setRoster_self hreach.1 _⟩
  · exact .inr ⟨hreach, h.absorb_of_not_reaches hreach r⟩

/-- A pass takes some of the first records and leaves the others. -/
theorem roster_drain (core max : Nat) :
    ∃ n, a.taken core max = (a.roster core).take n ∧
      (a.drain core max).2.roster core = (a.roster core).drop n := by
  by_cases hreach : a.Reaches core
  · refine ⟨max, ?_, ?_⟩
    · rw [taken, h.drain_eq core hreach.2]
      rfl
    · rw [h.drain_eq core hreach.2]
      exact roster_setRoster_drop core max
  · -- Out of reach nothing is taken and all is left.
    refine ⟨0, ?_, ?_⟩ <;>
      rcases h.drain_of_not_reaches hreach max with ⟨e, he⟩ | he <;> simp [taken, he]

/-! ### What an operation does to sums over the stored records -/

/-- The roster of a core leaves the sum and the new one comes in. -/
theorem tally_stored_setRoster (f : Record → Nat) {core : Nat} (hcore : core < a.coreCount)
    (l : Roster) :
    tally f (a.setRoster storeCapacity queueCapacity core l).stored + tally f (a.roster core)
      = tally f a.stored + tally f l := by
  have hset := tally_flatMap_set f (fun g : Guarded Slot => g.value.records)
    (.new (.ofRoster storeCapacity queueCapacity l)) (h.slot core hcore)
  simp only [Guarded.new, Slot.records_ofRoster] at hset
  exact hset

/-- A record on the roster of a core is stored. -/
theorem mem_stored {core : Nat} (hcore : core < a.coreCount) {r : Record}
    (hr : r ∈ a.roster core) : r ∈ a.stored := by
  refine List.mem_flatMap.mpr ⟨_, List.mem_of_getElem? (h.slot core hcore), ?_⟩
  show r ∈ (Slot.ofRoster storeCapacity queueCapacity (a.roster core)).records
  rwa [Slot.records_ofRoster]

/-- A record is merged into a stored one with its id, or stored, or
handed back. In the last case nothing changes. -/
theorem absorb_cases (core : Nat) (r : Record) :
    (∃ count b old, a.absorb core r = (.merged count, b) ∧ b.Sound storeCapacity queueCapacity ∧
      old ∈ a.stored ∧ old.id = r.id ∧
      ∀ f, tally f b.stored + f old = tally f a.stored + f (old.counting 1)) ∨
    (∃ b, a.absorb core r = (.queued, b) ∧ b.Sound storeCapacity queueCapacity ∧
      ∀ f, tally f b.stored = tally f a.stored + f r) ∨
    (∃ reason, a.absorb core r = (.fallback reason r, a)) := by
  by_cases hreach : a.Reaches core
  · -- The record reaches the slot, and the roster decides.
    have hsound := h.setRoster core
      (Roster.distinct_absorb (h.distinct core) storeCapacity queueCapacity r)
      (Roster.length_absorb_le (h.fits core) r)
    have htally := fun f => h.tally_stored_setRoster f hreach.1
      ((a.roster core).absorb storeCapacity queueCapacity r).2
    rw [h.absorb_eq hreach.1 hreach.2]
    rcases Roster.absorb_cases storeCapacity queueCapacity (a.roster core) r with
      ⟨old, hfind, he⟩ | he | ⟨reason, he⟩ <;> rw [he] at hsound htally ⊢ <;>
      dsimp only at hsound htally ⊢
    · refine .inl ⟨_, _, old, rfl, hsound, h.mem_stored hreach.1 (Roster.mem_of_find? hfind).1,
        (Roster.mem_of_find? hfind).2, fun f => ?_⟩
      have hbump := Roster.tally_bump f (h.distinct core) hfind
      have hnext := htally f
      omega
    · refine .inr (.inl ⟨_, rfl, hsound, fun f => ?_⟩)
      have hnext := htally f
      rw [tally_append, tally_cons, tally_nil] at hnext
      omega
    · exact .inr (.inr ⟨reason, by rw [h.setRoster_roster]⟩)
  · exact .inr (.inr (h.absorb_of_not_reaches hreach r))

/-- A pass fails and changes nothing, or it takes records out and
misses none. -/
theorem drain_cases (core max : Nat) :
    (∃ e, a.drain core max = (.error e, a)) ∨
    (∃ rs remaining b, a.drain core max = (.ok (rs, ⟨rs.length, 0, remaining⟩), b) ∧
      b.Sound storeCapacity queueCapacity ∧
      ∀ f, tally f a.stored = tally f rs + tally f b.stored) := by
  by_cases hreach : a.Reaches core
  · refine .inr ⟨(a.roster core).take max, (a.roster core).length - max, _, ?_,
      h.setRoster_drop core max, fun f => ?_⟩
    · rw [h.drain_eq core hreach.2, Roster.drain, List.length_take]
    · -- What leaves and what stays make up the roster from before.
      have hsplit := tally_append f ((a.roster core).take max) ((a.roster core).drop max)
      rw [List.take_append_drop] at hsplit
      have := h.tally_stored_setRoster f hreach.1 ((a.roster core).drop max)
      omega
  · rcases h.drain_of_not_reaches hreach max with he | he
    · exact .inl he
    · exact .inr ⟨[], 0, a, he, h, fun f => by simp⟩

end Sound

end

end Aggregation

end RuleTrace
