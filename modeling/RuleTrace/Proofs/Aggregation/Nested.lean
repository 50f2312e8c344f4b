import RuleTrace.Aggregation.Nested
import RuleTrace.Proofs.Aggregation.Cores

/-!
# `RuleTrace.Proofs.Aggregation.Nested`: calls from inside a drain pass

Whoever receives the records of a pass over a core may use the slots
again while the pass goes on. The lock of the core is held all the
time, so it does not matter what the slot of the core is: a call that
is made meanwhile leaves that slot alone, and it does to the other
cores what it would do to them at any other time.

`Call.runBeside` says what such a call does, without any lock on the
drained core: a call on that core is answered at once, a call on
another core is run, an occupancy is counted over the other cores. It
is the reference for the calls that the slots run. The bridge is
`Skirts`: with any held slot `g` put on the core, `f` answers what
`beside` answers without it, and `g` is still there afterwards.
`Call.skirts` proves it for every call, by recursion on the call; the
lemmas before it are one for each way in which a call reaches a slot.

`drainHeld_put_self` joins the pass with the calls made during it. Its
induction is over the rounds of the pass, with the slot of the core on
one side and all other cores on the other: a round changes the slot,
the calls for its record change the others, and neither sees what the
other one did. `drain_unmoved_by_calls` is the result for a whole pass.

That no lock is left held is a fact of its own (`KeepsLocks`): every
call, nested or not, leaves each lock as it found it.
-/

set_option autoImplicit false

namespace RuleTrace

/-! ### Slots put on a core -/

namespace PerCore

variable {α : Type} (t : PerCore α)

/-- Of two values for one core the last one stays. -/
theorem set_set (core : Nat) (x y : α) : (t.set core x).set core y = t.set core y :=
  eq_of_slots (List.set_set x)

/-- Values for two cores can be written in either order. -/
theorem set_comm {core other : Nat} (h : other ≠ core) (x y : α) :
    (t.set core x).set other y = (t.set other y).set core x :=
  eq_of_slots (List.set_comm x y h.symm)

end PerCore

namespace Guarded

variable {α β : Type}

/-- A lock that is held is not had. -/
theorem acquire_of_held {g : Guarded α} (h : g.lock.held = true) (attempts : Nat) :
    g.acquire attempts = .error ⟨attempts⟩ := by
  simp [acquire, Lock.acquire, h, Except.map]

/-- A free lock is had with an attempt. -/
theorem acquire_new {attempts : Nat} (h : 0 < attempts) (value : α) :
    (Guarded.new value).acquire attempts = .ok ⟨⟨true⟩, value⟩ := by
  simp [acquire, Lock.acquire, new, Lock.free, h, Except.map]

/-- A lock that was had was free. -/
theorem lock_of_acquire {g k : Guarded α} {attempts : Nat} (h : g.acquire attempts = .ok k) :
    g.lock = .free := by
  unfold acquire Lock.acquire at h
  split at h
  · rename_i hfree
    exact congrArg Lock.mk hfree.2
  · cases h

/-- Whether the operation runs or not, the lock is left as it was. -/
theorem lock_withLock (g : Guarded α) (attempts : Nat) (operation : α → β × α) :
    (g.withLock attempts operation).2.lock = g.lock := by
  unfold withLock
  cases hacquire : g.acquire attempts with
  | error e => rfl
  | ok k => exact (lock_of_acquire hacquire).symm

end Guarded

namespace Aggregation

/-- The slots with another one on a core, whatever its lock. -/
def put (a : Aggregation) (core : Nat) (g : Guarded Slot) : Aggregation :=
  { a with cores := a.cores.set core g }

/-- The locks, by core. -/
def locks (a : Aggregation) : List Lock := a.cores.slots.map Guarded.lock

/-- All locks are free. -/
def Unlocked (a : Aggregation) : Prop := ∀ lock ∈ a.locks, lock = .free

/-- The operation leaves every lock as it was. -/
def KeepsLocks {α : Type} (f : Aggregation → α × Aggregation) : Prop :=
  ∀ a, (f a).2.locks = a.locks

variable (a : Aggregation) {core other : Nat} {g : Guarded Slot}

/-- The attempts do not depend on the slots. -/
@[simp] theorem attempts_put (core : Nat) (g : Guarded Slot) :
    (a.put core g).attempts = a.attempts := rfl

/-- A slot put on a core leaves the number of cores. -/
@[simp] theorem coreCount_put (core : Nat) (g : Guarded Slot) :
    (a.put core g).coreCount = a.coreCount := a.cores.size_set core g

/-- There is a lock for each core. -/
theorem length_locks : a.locks.length = a.coreCount := List.length_map _

/-- The core has the slot that was put on it. -/
theorem get?_put_self (hcore : core < a.coreCount) (g : Guarded Slot) :
    (a.put core g).cores.get? core = some g := PerCore.get?_set_self hcore g

/-- The other cores have theirs. -/
theorem get?_put_of_ne (h : other ≠ core) (g : Guarded Slot) :
    (a.put core g).cores.get? other = a.cores.get? other := a.cores.get?_set_of_ne h g

/-- Of two slots put on a core the last one stays. -/
theorem put_put (core : Nat) (g k : Guarded Slot) : (a.put core g).put core k = a.put core k := by
  simp only [put, PerCore.set_set]

/-- Slots can be put on two cores in either order. -/
theorem put_comm (h : other ≠ core) (g k : Guarded Slot) :
    (a.put core g).put other k = (a.put other k).put core g := by
  simp only [put, PerCore.set_comm a.cores h]

/-- A slot brings its lock with it. -/
theorem locks_put (core : Nat) (g : Guarded Slot) :
    (a.put core g).locks = a.locks.set core g.lock := List.map_set

/-- A slot with the lock that the core has changes no lock. -/
theorem locks_put_of_get? {k : Guarded Slot} (hk : a.cores.get? core = some k)
    (hlock : g.lock = k.lock) : (a.put core g).locks = a.locks := by
  have hsame : a.put core k = a := by
    rw [put, PerCore.set_of_get? hk]
  rw [locks_put, hlock, ← locks_put, hsame]

/-- Behind a free lock there is a slot. -/
theorem Unlocked.get? {a : Aggregation} (h : a.Unlocked) (hcore : core < a.coreCount) :
    ∃ slot, a.cores.get? core = some (.new slot) := by
  have hk : a.cores.get? core = some a.cores.slots[core] := List.getElem?_eq_getElem hcore
  have hfree : a.cores.slots[core].lock = .free :=
    h _ (List.mem_map_of_mem (List.getElem_mem hcore))
  refine ⟨a.cores.slots[core].value, ?_⟩
  rw [hk, Guarded.new, ← hfree]

/-- Whether all locks are free depends on the locks alone. -/
theorem Unlocked.of_locks {a b : Aggregation} (h : a.Unlocked) (hlocks : b.locks = a.locks) :
    b.Unlocked := by
  rw [Unlocked, hlocks]
  exact h

/-! ### What is done while a core is held -/

/-- While the slot of a core is `g`, the operation answers what `beside`
answers without it, does the same to the other cores, and leaves `g`
where it is. -/
def Skirts {α : Type} (core : Nat) (g : Guarded Slot) (f beside : Aggregation → α × Aggregation) :
    Prop :=
  ∀ a, core < a.coreCount → f (a.put core g) = ((beside a).1, (beside a).2.put core g)

/-- The occupancy of all cores but one, whose lock is held. -/
def occupancyBeside (core : Nat) : Occupancy :=
  (a.cores.slots.eraseIdx core).foldl (addOccupancy a.attempts)
    { (default : Occupancy) with contendedCores := 1 }

mutual

/-- What a call does while a core is drained. Calls on that core are
refused, and its slot is not looked at; calls on other cores run as at
any time, with the calls nested in them beside the same core. -/
def Call.runBeside (core : Nat) : Call → Aggregation → Reply × Aggregation
  | .absorb other r, a =>
    if other = core then (.absorbed (.fallback .contended r), a)
    else (Call.absorb other r).run a
  | .pass other max nested, a =>
    if other = core then (.contended ⟨a.attempts⟩, a)
    else a.drainWith other max fun r => runAllBeside core (nested r)
  | .occupancy, a => (.occupancy (a.occupancyBeside core), a)

/-- What calls do while a core is drained, one after another. -/
def runAllBeside (core : Nat) : List Call → Aggregation → List Reply × Aggregation
  | [], a => ([], a)
  | call :: calls, a =>
    let (reply, a) := call.runBeside core a
    let (replies, a) := runAllBeside core calls a
    (reply :: replies, a)

end

mutual

/-- The call is on other cores only, and so are the calls nested in
it. -/
def Call.Avoids (core : Nat) : Call → Prop
  | .absorb other _ => other ≠ core
  | .pass other _ nested => other ≠ core ∧ ∀ r, AllAvoid core (nested r)
  | .occupancy => False

/-- All of the calls are on other cores only. -/
def AllAvoid (core : Nat) : List Call → Prop
  | [] => True
  | call :: calls => call.Avoids core ∧ AllAvoid core calls

end

/-- Calls one after the other do what the first ones do, and then the rest. -/
theorem runAllBeside_append (core : Nat) (calls others : List Call) (a : Aggregation) :
    runAllBeside core (calls ++ others) a
      = ((runAllBeside core calls a).1
          ++ (runAllBeside core others (runAllBeside core calls a).2).1,
        (runAllBeside core others (runAllBeside core calls a).2).2) := by
  induction calls generalizing a with
  | nil => rfl
  | cons call calls ih => simp [runAllBeside, ih]

mutual

/-- Beside a core, a call that has nothing to do with it is run as at
any other time. -/
theorem Call.runBeside_of_avoids (core : Nat) : ∀ (call : Call) (a : Aggregation),
    call.Avoids core → call.runBeside core a = call.run a
  | .absorb other r, a, h => by
    rw [Call.Avoids] at h
    rw [Call.runBeside, if_neg h]
  | .pass other max nested, a, h => by
    rw [Call.Avoids] at h
    have hnested : (fun r => runAllBeside core (nested r)) = fun r => runAll (nested r) := by
      funext r b
      exact runAllBeside_of_avoid core (nested r) b (h.2 r)
    rw [Call.runBeside, if_neg h.1, hnested, Call.run]
  | .occupancy, a, h => by
    rw [Call.Avoids] at h
    exact h.elim

/-- So are calls that have nothing to do with it. -/
theorem runAllBeside_of_avoid (core : Nat) : ∀ (calls : List Call) (a : Aggregation),
    AllAvoid core calls → runAllBeside core calls a = runAll calls a
  | [], a, _ => by rw [runAllBeside, runAll]
  | call :: calls, a, h => by
    rw [AllAvoid] at h
    rw [runAllBeside, runAll, Call.runBeside_of_avoids core call a h.1]
    simp only [runAllBeside_of_avoid core calls _ h.2]

end

/-! ### One way to a slot at a time -/

section
variable {a}

/-- An operation on another core does not see the slot that was put. -/
theorem onSlot_put_of_ne {α : Type} (h : other ≠ core) (g : Guarded Slot)
    (operation : Slot → α × Slot) :
    (a.put core g).onSlot other operation
      = ((a.onSlot other operation).1, (a.onSlot other operation).2.put core g) := by
  unfold onSlot
  rw [a.get?_put_of_ne h]
  cases a.cores.get? other with
  | none => rfl
  | some k =>
    have hcomm := a.put_comm h g (k.withLock a.attempts operation).2
    exact congrArg _ hcomm

/-- An operation on the core itself does not get its lock. -/
theorem onSlot_put_self {α : Type} (hcore : core < a.coreCount) (hg : g.lock.held = true)
    (operation : Slot → α × Slot) :
    (a.put core g).onSlot core operation = (some (.error ⟨a.attempts⟩), a.put core g) := by
  have hheld : g.withLock a.attempts operation = (.error ⟨a.attempts⟩, g) := by
    rw [Guarded.withLock, Guarded.acquire_of_held hg]
  have hput := a.put_put core g g
  unfold onSlot
  rw [a.get?_put_self hcore]
  simp only [attempts_put, hheld]
  exact congrArg _ hput

/-- Another core absorbs a record as it would without the slot. -/
theorem absorb_put_of_ne (h : other ≠ core) (g : Guarded Slot) (r : Record) :
    (a.put core g).absorb other r
      = ((a.absorb other r).1, (a.absorb other r).2.put core g) := by
  have hslot := onSlot_put_of_ne (a := a) h g fun s => s.absorb r
  refine Prod.ext ?_ ?_
  · rw [fst_absorb, fst_absorb, hslot]
  · rw [snd_absorb, snd_absorb, hslot]

/-- The core itself hands the record back. -/
theorem absorb_put_self (hcore : core < a.coreCount) (hg : g.lock.held = true) (r : Record) :
    (a.put core g).absorb core r = (.fallback .contended r, a.put core g) := by
  rw [absorb, onSlot_put_self hcore hg]

/-- An operation on one slot leaves all locks as they were. -/
theorem keepsLocks_onSlot {α : Type} (core : Nat) (operation : Slot → α × Slot) :
    KeepsLocks fun a => a.onSlot core operation := by
  intro a
  dsimp only
  unfold onSlot
  cases hk : a.cores.get? core with
  | none => rfl
  | some k => exact a.locks_put_of_get? hk (k.lock_withLock a.attempts operation)

/-- The held core counts as one whose lock is not had, wherever it stands
in the count. -/
theorem foldl_addOccupancy_set (attempts : Nat) (hg : g.lock.held = true)
    (slots : List (Guarded Slot)) (o : Occupancy) (hcore : core < slots.length) :
    (slots.set core g).foldl (addOccupancy attempts) o
      = (slots.eraseIdx core).foldl (addOccupancy attempts)
          { o with contendedCores := o.contendedCores + 1 } := by
  induction slots generalizing core o with
  | nil => exact absurd hcore (Nat.not_lt_zero core)
  | cons k slots ih =>
    cases core with
    | zero =>
      have hcontended : addOccupancy attempts o g
          = { o with contendedCores := o.contendedCores + 1 } := by
        simp [addOccupancy, Lock.acquire, hg]
      simp only [List.set_cons_zero, List.foldl_cons, hcontended, List.eraseIdx_cons_zero]
    | succ core =>
      -- The first slot may be counted before or after the held one.
      have hswap : addOccupancy attempts { o with contendedCores := o.contendedCores + 1 } k
          = { addOccupancy attempts o k with
              contendedCores := (addOccupancy attempts o k).contendedCores + 1 } := by
        unfold addOccupancy
        cases k.lock.acquire attempts <;> rfl
      have hrest := ih (addOccupancy attempts o k) (Nat.lt_of_succ_lt_succ hcore)
      simp only [List.set_cons_succ, List.foldl_cons, List.eraseIdx_cons_succ, hswap, hrest]

/-- An occupancy counts the held core as contended and adds up the others. -/
theorem occupancy_put (hcore : core < a.coreCount) (hg : g.lock.held = true) :
    (a.put core g).occupancy = a.occupancyBeside core :=
  foldl_addOccupancy_set a.attempts hg a.cores.slots default hcore

/-- A slot that is changed is another one put on its core. -/
theorem modifySlot_of_get? {k : Guarded Slot} (hk : a.cores.get? core = some k)
    (f : Guarded Slot → Guarded Slot) : a.modifySlot core f = a.put core (f k) := by
  unfold modifySlot
  rw [hk]
  rfl

/-- The slot that was put on the core is changed. -/
theorem modifySlot_put_self (hcore : core < a.coreCount) (g : Guarded Slot)
    (f : Guarded Slot → Guarded Slot) : (a.put core g).modifySlot core f = a.put core (f g) := by
  rw [modifySlot_of_get? (a.get?_put_self hcore g), put_put]

/-- A change on another core does not see it. -/
theorem modifySlot_put_of_ne (h : other ≠ core) (g : Guarded Slot)
    (f : Guarded Slot → Guarded Slot) :
    (a.put core g).modifySlot other f = (a.modifySlot other f).put core g := by
  unfold modifySlot
  rw [a.get?_put_of_ne h]
  cases a.cores.get? other with
  | none => rfl
  | some k => exact a.put_comm h g (f k)

end

/-! ### A pass with calls -/

section
variable {a} {k : Guarded Slot} {handler beside : Handler}

/-- Nothing waits, and the pass is over. -/
theorem drainHeld_of_none (hk : a.cores.get? core = some k) (htake : k.value.takeOldest? = none)
    (handler : Handler) (max : Nat) :
    drainHeld core handler (max + 1) a = (⟨[], 0, []⟩, a) := by
  rw [drainHeld]
  simp only [hk, Option.bind_some, htake]

/-- The record of the oldest id is gone, and the pass goes on. -/
theorem drainHeld_of_missed (hk : a.cores.get? core = some k) {slot : Slot}
    (htake : k.value.takeOldest? = some (none, slot)) (handler : Handler) (max : Nat) :
    drainHeld core handler (max + 1) a
      = let next := drainHeld core handler max (a.put core { k with value := slot })
        ({ next.1 with missed := next.1.missed + 1 }, next.2) := by
  rw [drainHeld]
  simp only [hk, Option.bind_some, htake, modifySlot_of_get? hk]

/-- The oldest record is taken out, the handler is run, and the pass goes
on with what the handler leaves. -/
theorem drainHeld_of_record (hk : a.cores.get? core = some k) {r : Record} {slot : Slot}
    (htake : k.value.takeOldest? = some (some r, slot)) (handler : Handler) (max : Nat) :
    drainHeld core handler (max + 1) a
      = let handled := handler r (a.put core { k with value := slot })
        let next := drainHeld core handler max handled.2
        ({ next.1 with
            records := r :: next.1.records
            replies := handled.1 ++ next.1.replies }, next.2) := by
  rw [drainHeld]
  simp only [hk, Option.bind_some, htake, modifySlot_of_get? hk]

/-- Without a slot there is nothing to take out. -/
theorem drainHeld_of_get?_eq_none (hk : a.cores.get? core = none) (handler : Handler)
    (max : Nat) : drainHeld core handler max a = (⟨[], 0, []⟩, a) := by
  cases max with
  | zero => rfl
  | succ max =>
    rw [drainHeld]
    simp only [hk, Option.bind_none]

/-- The rounds of a pass leave the locks alone if their handler does. -/
theorem keepsLocks_drainHeld (hhandler : ∀ r, KeepsLocks (handler r)) (core max : Nat) :
    KeepsLocks (drainHeld core handler max) := by
  induction max with
  | zero =>
    intro a
    rfl
  | succ max ih =>
    intro a
    cases hk : a.cores.get? core with
    | none => rw [drainHeld_of_get?_eq_none hk]
    | some k =>
      -- A round changes the slot behind the lock, and not the lock.
      have hput : ∀ slot, (a.put core { k with value := slot }).locks = a.locks :=
        fun slot => a.locks_put_of_get? hk rfl
      rcases htake : k.value.takeOldest? with _ | ⟨_ | r, slot⟩
      · rw [drainHeld_of_none hk htake]
      · rw [drainHeld_of_missed hk htake]
        exact (ih _).trans (hput slot)
      · rw [drainHeld_of_record hk htake]
        exact (ih _).trans ((hhandler r _).trans (hput slot))

/-- What leaves the locks alone leaves the number of cores. -/
theorem KeepsLocks.coreCount_eq {α : Type} {f : Aggregation → α × Aggregation}
    (hf : KeepsLocks f) (a : Aggregation) : (f a).2.coreCount = a.coreCount := by
  rw [← length_locks, hf a, length_locks]

/-- The rounds of a pass over another core keep beside the slot if their
handler does. -/
theorem skirts_drainHeld (h : other ≠ core) (hhandler : ∀ r, Skirts core g (handler r) (beside r))
    (hlocks : ∀ r, KeepsLocks (beside r)) (max : Nat) :
    Skirts core g (drainHeld other handler max) (drainHeld other beside max) := by
  induction max with
  | zero =>
    intro a _
    rfl
  | succ max ih =>
    intro a hcore
    have hget := a.get?_put_of_ne h g
    cases hk : a.cores.get? other with
    | none =>
      rw [drainHeld_of_get?_eq_none (hget.trans hk), drainHeld_of_get?_eq_none hk]
    | some k =>
      have hcount : ∀ slot, core < (a.put other { k with value := slot }).coreCount :=
        fun slot => by rwa [coreCount_put]
      rcases htake : k.value.takeOldest? with _ | ⟨_ | r, slot⟩
      · rw [drainHeld_of_none (hget.trans hk) htake, drainHeld_of_none hk htake]
      · rw [drainHeld_of_missed (hget.trans hk) htake, drainHeld_of_missed hk htake,
          put_comm a h, ih _ (hcount slot)]
      · -- The handler sees `g` on the core, and so does the rest of the pass.
        have hnext : core < (beside r (a.put other { k with value := slot })).2.coreCount := by
          rw [(hlocks r).coreCount_eq]
          exact hcount slot
        rw [drainHeld_of_record (hget.trans hk) htake, drainHeld_of_record hk htake,
          put_comm a h, hhandler r _ (hcount slot)]
        simp only [ih _ hnext]

/-- The ids that wait on a core. -/
def waiting (a : Aggregation) (core : Nat) : Nat :=
  ((a.cores.get? core).map fun g => g.value.pending.size).getD 0

/-- Without the lock there is no pass. -/
theorem drainWith_of_refused (hk : a.cores.get? core = some k) {e : Contended}
    (hacquire : k.acquire a.attempts = .error e) (max : Nat) (handler : Handler) :
    a.drainWith core max handler = (.contended e, a) := by
  unfold drainWith
  simp only [hk, hacquire]

/-- With the lock the ids are taken out while it is held, and then it is
given back. -/
theorem drainWith_of_acquired (hk : a.cores.get? core = some k) {held : Guarded Slot}
    (hacquire : k.acquire a.attempts = .ok held) (max : Nat) (handler : Handler) :
    a.drainWith core max handler
      = let pass := drainHeld core handler max (a.put core held)
        (.drained ⟨pass.1.records.length, pass.1.missed, pass.2.waiting core⟩ pass.1.records
          pass.1.replies, pass.2.modifySlot core Guarded.release) := by
  unfold drainWith
  simp only [hk, hacquire]
  rfl

/-- Giving a lock back leaves the others as they were. -/
theorem locks_release (a : Aggregation) (core : Nat) :
    (a.modifySlot core Guarded.release).locks = a.locks.set core .free := by
  cases hk : a.cores.get? core with
  | none =>
    -- There is no slot to change, and no lock to set.
    have hlength : a.locks.length ≤ core := by
      simpa [length_locks, coreCount, PerCore.size, PerCore.get?] using hk
    rw [List.set_eq_of_length_le hlength, modifySlot, hk]
  | some k =>
    rw [modifySlot_of_get? hk, locks_put]
    rfl

/-- With a handler that leaves the locks alone, a pass gives back the one
lock that it took. -/
theorem keepsLocks_drainWith (hhandler : ∀ r, KeepsLocks (handler r)) (core max : Nat) :
    KeepsLocks fun a => a.drainWith core max handler := by
  intro a
  dsimp only
  cases hk : a.cores.get? core with
  | none => rw [drainWith, hk]
  | some k =>
    cases hacquire : k.acquire a.attempts with
    | error e => rw [drainWith_of_refused hk hacquire]
    | ok held =>
      have hfree := Guarded.lock_of_acquire hacquire
      have hback : (a.put core ⟨.free, k.value⟩).locks = a.locks :=
        a.locks_put_of_get? hk hfree.symm
      rw [drainWith_of_acquired hk hacquire]
      dsimp only
      rw [locks_release, keepsLocks_drainHeld hhandler core max, locks_put, List.set_set]
      -- What is left is to put the free lock where it was.
      rwa [locks_put] at hback

/-- So does a whole pass over another core. -/
theorem skirts_drainWith (h : other ≠ core) (hhandler : ∀ r, Skirts core g (handler r) (beside r))
    (hlocks : ∀ r, KeepsLocks (beside r)) (max : Nat) :
    Skirts core g (fun a => a.drainWith other max handler)
      fun a => a.drainWith other max beside := by
  intro a hcore
  have hget := a.get?_put_of_ne h g
  dsimp only
  cases hk : a.cores.get? other with
  | none =>
    unfold drainWith
    rw [hget.trans hk, hk]
  | some k =>
    cases hacquire : k.acquire a.attempts with
    | error e =>
      rw [drainWith_of_refused (hget.trans hk) hacquire, drainWith_of_refused hk hacquire]
    | ok held =>
      have hpass := skirts_drainHeld h hhandler hlocks max (a.put other held)
        (by rwa [coreCount_put])
      -- The ids that wait on the other core are counted there.
      have hwaiting : ∀ b : Aggregation, (b.put core g).waiting other = b.waiting other := by
        intro b
        unfold waiting
        rw [b.get?_put_of_ne h]
      rw [drainWith_of_acquired (hget.trans hk) hacquire, drainWith_of_acquired hk hacquire,
        put_comm a h, hpass]
      simp only [hwaiting, modifySlot_put_of_ne h]

end

/-! ### Calls -/

mutual

/-- A call beside a core leaves all locks as they were. -/
theorem Call.keepsLocks_runBeside (core : Nat) : ∀ call : Call, KeepsLocks (call.runBeside core)
  | .absorb other r => by
    intro a
    rw [Call.runBeside]
    split
    · rfl
    · show (a.absorb other r).2.locks = a.locks
      rw [snd_absorb]
      exact keepsLocks_onSlot other _ a
  | .pass other max nested => by
    intro a
    rw [Call.runBeside]
    split
    · rfl
    · exact keepsLocks_drainWith (fun r => keepsLocks_runAllBeside core (nested r)) other max a
  | .occupancy => by
    intro a
    rw [Call.runBeside]

/-- So do calls one after another. -/
theorem keepsLocks_runAllBeside (core : Nat) :
    ∀ calls : List Call, KeepsLocks (runAllBeside core calls)
  | [] => by
    intro a
    rw [runAllBeside]
  | call :: calls => by
    intro a
    rw [runAllBeside]
    exact (keepsLocks_runAllBeside core calls _).trans (call.keepsLocks_runBeside core a)

end

mutual

/-- Whatever slot is held on a core, a call keeps beside it. -/
theorem Call.skirts {core : Nat} {g : Guarded Slot} (hg : g.lock.held = true) :
    ∀ call : Call, Skirts core g call.run (call.runBeside core)
  | .absorb other r => by
    intro a hcore
    by_cases h : other = core
    · -- The core is locked by the pass, so the call is refused there and changes nothing.
      rw [Call.runBeside, if_pos h, Call.run, h, absorb_put_self hcore hg]
    · rw [Call.runBeside, if_neg h, Call.run, absorb_put_of_ne h]
      rfl
  | .pass other max nested => by
    intro a hcore
    by_cases h : other = core
    · -- A pass over the locked core is refused like any other call.
      rw [Call.runBeside, if_pos h, Call.run, h,
        drainWith_of_refused (a.get?_put_self hcore g) (Guarded.acquire_of_held hg _), attempts_put]
    · rw [Call.runBeside, if_neg h, Call.run]
      exact skirts_drainWith h (fun r => runAll_skirts hg (nested r))
        (fun r => keepsLocks_runAllBeside core (nested r)) max a hcore
  | .occupancy => by
    intro a hcore
    rw [Call.runBeside, Call.run, occupancy_put hcore hg]

/-- So do calls one after another. -/
theorem runAll_skirts {core : Nat} {g : Guarded Slot} (hg : g.lock.held = true) :
    ∀ calls : List Call, Skirts core g (runAll calls) (runAllBeside core calls)
  | [] => by
    intro a _
    rw [runAllBeside, runAll]
  | call :: calls => by
    intro a hcore
    have hnext : core < (call.runBeside core a).2.coreCount := by
      rwa [(call.keepsLocks_runBeside core).coreCount_eq]
    rw [runAllBeside, runAll, call.skirts hg a hcore]
    simp only [runAll_skirts hg calls _ hnext]

end

mutual

/-- What a call does beside a core has nothing to do with the slot of that
core, which stays as it is. -/
theorem Call.skirts_runBeside (core : Nat) (g : Guarded Slot) :
    ∀ call : Call, Skirts core g (call.runBeside core) (call.runBeside core)
  | .absorb other r => by
    intro a _
    by_cases h : other = core
    · simp only [Call.runBeside, if_pos h]
    · rw [Call.runBeside, Call.runBeside, if_neg h, if_neg h, Call.run, Call.run,
        absorb_put_of_ne h]
  | .pass other max nested => by
    intro a hcore
    by_cases h : other = core
    · simp only [Call.runBeside, if_pos h, attempts_put]
    · rw [Call.runBeside, Call.runBeside, if_neg h, if_neg h]
      exact skirts_drainWith h (fun r => skirts_runAllBeside core g (nested r))
        (fun r => keepsLocks_runAllBeside core (nested r)) max a hcore
  | .occupancy => by
    intro a _
    -- The occupancy is looked at without this core.
    have herase : (a.put core g).cores.slots.eraseIdx core = a.cores.slots.eraseIdx core :=
      List.eraseIdx_set_eq
    rw [Call.runBeside, Call.runBeside, occupancyBeside, herase]
    rfl

/-- Nor have calls one after another. -/
theorem skirts_runAllBeside (core : Nat) (g : Guarded Slot) :
    ∀ calls : List Call, Skirts core g (runAllBeside core calls) (runAllBeside core calls)
  | [] => by
    intro a _
    rw [runAllBeside, runAllBeside]
  | call :: calls => by
    intro a hcore
    have hnext : core < (call.runBeside core a).2.coreCount := by
      rwa [(call.keepsLocks_runBeside core).coreCount_eq]
    rw [runAllBeside, runAllBeside, call.skirts_runBeside core g a hcore]
    simp only [skirts_runAllBeside core g calls _ hnext]

end

/-- Calls beside a core do not change its slot. -/
theorem get?_runAllBeside {a : Aggregation} {core : Nat} {k : Guarded Slot}
    (hk : a.cores.get? core = some k) (calls : List Call) :
    (runAllBeside core calls a).2.cores.get? core = some k := by
  have hcore : core < a.coreCount := (List.getElem?_eq_some_iff.mp hk).1
  have hcount : core < (runAllBeside core calls a).2.coreCount := by
    rwa [(keepsLocks_runAllBeside core calls).coreCount_eq]
  -- With its own slot put on the core, the state is as it was before.
  have hput : a.put core k = a := by
    rw [put, PerCore.set_of_get? hk]
  have hsame := skirts_runAllBeside core k calls a hcore
  rw [hput] at hsame
  have hslots := congrArg (fun out => out.2.cores.get? core) hsame
  exact hslots.trans (get?_put_self _ hcount k)

section
variable {a : Aggregation} {core : Nat}

/-- The rounds of a pass, with the calls for the records beside them: the
slot gives up what it gives up without calls, and the calls do to the
other cores what they do without the pass. -/
theorem drainHeld_put_self {g : Guarded Slot} (hcore : core < a.coreCount)
    (hg : g.lock.held = true) (choice : Record → List Call) (max : Nat) :
    drainHeld core (fun r => runAll (choice r)) max (a.put core g)
      = let out := g.value.takeUpTo max
        let nested := runAllBeside core (out.1.flatMap choice) a
        (⟨out.1, out.2.1, nested.1⟩, nested.2.put core { g with value := out.2.2 }) := by
  induction max generalizing a g with
  | zero =>
    simp only [Slot.takeUpTo, List.flatMap_nil, runAllBeside]
    rfl
  | succ max ih =>
    have hk := a.get?_put_self hcore g
    rcases htake : g.value.takeOldest? with _ | ⟨_ | r, slot⟩
    · rw [drainHeld_of_none hk htake, Slot.takeUpTo, htake]
      simp only [List.flatMap_nil, runAllBeside]
    · -- No call is made for an id without a record.
      have hrest := ih (g := { g with value := slot }) hcore hg
      rw [drainHeld_of_missed hk htake, put_put, hrest, Slot.takeUpTo, htake]
    · have hnext : core < (runAllBeside core (choice r) a).2.coreCount := by
        rwa [(keepsLocks_runAllBeside core (choice r)).coreCount_eq]
      -- The calls for `r` skirt the slot that the round leaves.
      have hcalls := runAll_skirts (g := { g with value := slot }) hg (choice r) a hcore
      have hrest := ih (g := { g with value := slot }) hnext hg
      rw [drainHeld_of_record hk htake, put_put, hcalls]
      simp only [hrest, Slot.takeUpTo, htake, List.flatMap_cons, runAllBeside_append]

/-- A pass without calls over a core whose lock is free. -/
theorem drain_of_free {slot : Slot} (hk : a.cores.get? core = some (.new slot))
    (hattempts : 0 < a.attempts) (max : Nat) :
    a.drain core max
      = let out := slot.takeUpTo max
        (.ok (out.1, ⟨out.1.length, out.2.1, out.2.2.pending.size⟩),
          a.put core (.new out.2.2)) := by
  unfold drain onSlot
  simp only [hk, Guarded.withLock_new hattempts]
  rfl

/-- A pass with calls over a core whose lock is free. -/
theorem drainWith_of_free {slot : Slot} (hk : a.cores.get? core = some (.new slot))
    (hattempts : 0 < a.attempts) (choice : Record → List Call) (max : Nat) :
    a.drainWith core max (fun r => runAll (choice r))
      = let out := slot.takeUpTo max
        let nested := runAllBeside core (out.1.flatMap choice) a
        (.drained ⟨out.1.length, out.2.1, out.2.2.pending.size⟩ out.1 nested.1,
          nested.2.put core (.new out.2.2)) := by
  have hcore : core < a.coreCount := (List.getElem?_eq_some_iff.mp hk).1
  have hcount : ∀ calls, core < (runAllBeside core calls a).2.coreCount := by
    intro calls
    rwa [(keepsLocks_runAllBeside core calls).coreCount_eq]
  -- With the lock had, the slot on the core is held.
  have hheld := drainHeld_put_self (g := ⟨⟨true⟩, slot⟩) hcore rfl choice max
  rw [drainWith_of_acquired hk (Guarded.acquire_new hattempts slot), hheld]
  simp only [waiting, get?_put_self _ (hcount _), modifySlot_put_self (hcount _)]
  rfl

/-- Slots whose locks are all free and may be tried, a pass over one of
the cores, and for each record that the pass can take out the calls that
are made when it is taken out: records absorbed, passes with calls of
their own, occupancies, on any cores.

The pass answers the records and the report of a pass without calls. The
calls answer, and do, what they do beside the core (`Call.runBeside`): on
the core itself a record is handed back as contended and a pass is
refused, an occupancy counts the core as contended and adds up the
others, and on another core a call is run as if there were no pass. So
the calls leave the slot of the core as it is, and calls that are on
other cores only are the same calls without a pass. Afterwards the core
holds what a pass without calls leaves in it, the other cores hold what
the calls leave in them, and every lock is free. -/
theorem drain_unmoved_by_calls (hfree : a.Unlocked) (hattempts : 0 < a.attempts)
    (core max : Nat) (choice : Record → List Call) :
    ∃ records report,
      (a.drain core max).1 = .ok (records, report) ∧
      let calls := records.flatMap choice
      let nested := runAllBeside core calls a
      let outcome := a.drainWith core max fun r => runAll (choice r)
      outcome.1 = .drained report records nested.1 ∧
      nested.2.cores.get? core = a.cores.get? core ∧
      (AllAvoid core calls → nested = runAll calls a) ∧
      outcome.2.cores.get? core = (a.drain core max).2.cores.get? core ∧
      (∀ other, other ≠ core → outcome.2.cores.get? other = nested.2.cores.get? other) ∧
      outcome.2.Unlocked := by
  by_cases hcore : core < a.coreCount
  · obtain ⟨slot, hk⟩ := hfree.get? hcore
    refine ⟨_, _, by rw [drain_of_free hk hattempts], ?_⟩
    intro calls nested outcome
    have hsame : nested.2.cores.get? core = some (.new slot) := get?_runAllBeside hk calls
    have hlocks : nested.2.locks = a.locks := keepsLocks_runAllBeside core calls a
    have hcount : core < nested.2.coreCount := by
      rwa [← length_locks, hlocks, length_locks]
    have houtcome : outcome = _ := drainWith_of_free hk hattempts choice max
    rw [houtcome]
    refine ⟨rfl, hsame.trans hk.symm, ?_, ?_, ?_, ?_⟩
    · exact runAllBeside_of_avoid core calls a
    · rw [drain_of_free hk hattempts]
      exact (get?_put_self _ hcount _).trans (get?_put_self _ hcore _).symm
    · intro other hother
      exact get?_put_of_ne _ hother _
    · refine hfree.of_locks (Eq.trans ?_ hlocks)
      exact locks_put_of_get? _ hsame rfl
  · -- There is nothing to take out, so no call is made.
    have hk : a.cores.get? core = none := PerCore.get?_eq_none (Nat.le_of_not_lt hcore)
    have hdrain : a.drain core max = (.ok ([], default), a) := by
      rw [drain, onSlot, hk]
    have hwith : (a.drainWith core max fun r => runAll (choice r))
        = (.drained default [] [], a) := by
      rw [drainWith, hk]
    refine ⟨[], default, by rw [hdrain], ?_⟩
    rw [hdrain, hwith]
    simp only [List.flatMap_nil, runAllBeside, runAll, implies_true, true_and]
    exact hfree

/-- Two cores, with two records waiting on the first. A pass takes one of
them, and meanwhile both cores are used, the second one also by a pass
with calls of its own. What is done on the first core is refused, at any
depth, and the second record still waits afterwards. -/
theorem drain_unmoved_by_calls_two_cores :
    let record : UInt32 → Record := fun id => { (default : Record) with id := id, count := 1 }
    let a := (((Aggregation.new 2 4 4 3).absorb 0 (record 7)).2.absorb 0 (record 8)).2
    let choice : Record → List Call := fun r =>
      [.absorb 0 r, .drain 0 5 [], .absorb 1 r, .drain 1 5 [.absorb 0 r, .absorb 1 r],
        .absorb 1 r, .occupancy]
    let outcome := a.drainWith 0 1 fun r => runAll (choice r)
    let refused := Reply.absorbed (.fallback .contended (record 7))
    a.Unlocked ∧ 0 < a.attempts ∧
    outcome.1 = .drained ⟨1, 0, 1⟩ [record 7]
      [refused, .contended ⟨3⟩, .absorbed .queued, .drained ⟨1, 0, 0⟩ [record 7] [refused, refused],
        .absorbed .queued, .occupancy ⟨1, 1, 1⟩] ∧
    outcome.2.pendingIds 0 = [8] ∧ outcome.2.pendingIds 1 = [7] ∧ outcome.2.Unlocked := by
  intro record a choice outcome refused
  have hfree : a.Unlocked := by
    unfold Unlocked
    decide
  have hattempts : 0 < a.attempts := by decide
  obtain ⟨records, report, hdrain, hreply, -, -, hself, hothers, hunlocked⟩ :=
    drain_unmoved_by_calls hfree hattempts 0 1 choice
  have hplain : (a.drain 0 1).1 = .ok ([record 7], ⟨1, 0, 1⟩) := rfl
  have hsame := hplain.symm.trans hdrain
  cases hsame
  refine ⟨hfree, hattempts, hreply.trans ?_, ?_, ?_, hunlocked⟩
  -- Evaluation is fast once the local names are unfolded.
  · dsimp only [refused, choice, a, record]
    rfl
  · rw [pendingIds, hself]
    rfl
  · rw [pendingIds, hothers 1 (by decide)]
    dsimp only [choice, a, record]
    rfl

end

end Aggregation

end RuleTrace
