import RuleTrace.Proofs.Aggregation.Calls

/-!
# `RuleTrace.Proofs.Aggregation.Windows`: which records are merged into one

A window of an id opens when a record of the id is queued and closes
when the id is popped. In between, records of the id are merged into
the stored one. So a core lives through a list of windows, and it says
nothing about them but the records that it emits.

A `Chronicle` follows calls on a core and notes the windows by the
answers that the calls get: `queued` opens one, `merged` counts for the
open one of this id, and a pass closes those whose ids no longer wait.
What is merged where is not looked up in the store.

`windows_in_order` is the law: the records that were emitted, and after
them those that wait, are the windows in the order in which they were
opened. The invariant `Chronicle.Split` behind it splits the windows
into those that are closed, which are the records emitted, and those
that are open, which are the roster. Ids that are popped stand in front
of the roster and nowhere else, so closing them keeps the split.
-/

set_option autoImplicit false

namespace RuleTrace

/-! ### Windows -/

/-- The time from when a record is queued until its id is popped. -/
structure Window where
  /-- the record that was queued -/
  opener : Record
  /-- how many records were merged since -/
  merges : Nat
  isOpen : Bool
  deriving DecidableEq, Repr

namespace Window

/-- The window that a queued record opens. -/
def start (r : Record) : Window := ⟨r, 0, true⟩

/-- The window after a record with an id was merged. -/
def merge (id : UInt32) (w : Window) : Window :=
  if w.isOpen ∧ w.opener.id = id then { w with merges := w.merges + 1 } else w

/-- The window after ids were popped. -/
def close (ids : List UInt32) (w : Window) : Window :=
  if w.opener.id ∈ ids then { w with isOpen := false } else w

/-- The record of a window: the one that opened it, standing for itself
and all that were merged. -/
def record (w : Window) : Record :=
  { w.opener with count := UInt64.ofNat (min (1 + w.merges) (UInt64.size - 1)) }

/-- A window that was just opened stands for its record alone. -/
theorem record_start {r : Record} (h : r.count = 1) : (start r).record = r := by
  show { r with count := (1 : UInt64) } = r
  rw [← h]

/-- Merging closes no window. -/
theorem isOpen_merge (id : UInt32) (w : Window) : (w.merge id).isOpen = w.isOpen := by
  rw [merge]
  split <;> rfl

/-- Nothing is merged into a closed window. -/
theorem merge_of_closed {w : Window} (h : w.isOpen = false) (id : UInt32) : w.merge id = w := by
  simp [merge, h]

/-- Merging into an open window is counting in its record. -/
theorem record_merge {w : Window} (h : w.isOpen = true) (id : UInt32) :
    (w.merge id).record = if w.record.id = id then w.record.counting 1 else w.record := by
  have hid : w.record.id = w.opener.id := rfl
  rw [merge, hid]
  by_cases hw : w.opener.id = id
  · rw [if_pos ⟨h, hw⟩, if_pos hw]
    -- Both records differ from the opener in the count only.
    have hcount : UInt64.ofNat (min (1 + (w.merges + 1)) (UInt64.size - 1))
        = addSaturating (UInt64.ofNat (min (1 + w.merges) (UInt64.size - 1))) 1 := by
      apply UInt64.toNat_inj.mp
      rw [toNat_addSaturating, UInt64.toNat_ofNat', UInt64.toNat_ofNat', UInt64.toNat_one]
      simp only [UInt64.size] at *
      omega
    show { w.opener with count := UInt64.ofNat (min (1 + (w.merges + 1)) (UInt64.size - 1)) }
      = w.record.counting 1
    rw [hcount]
    rfl
  · rw [if_neg fun hc => hw hc.2, if_neg hw]

/-- Closing changes no record. -/
theorem record_close (ids : List UInt32) (w : Window) : (w.close ids).record = w.record := by
  rw [close]
  split <;> rfl

/-- A window is closed when its id is popped. -/
theorem close_of_mem {ids : List UInt32} {w : Window} (h : w.opener.id ∈ ids) :
    (w.close ids).isOpen = false := by
  rw [close, if_pos h]

/-- A window of another id stays as it is. -/
theorem close_of_not_mem {ids : List UInt32} {w : Window} (h : w.opener.id ∉ ids) :
    w.close ids = w := if_neg h

/-- A closed window stays as it is. -/
theorem close_of_closed {w : Window} (h : w.isOpen = false) (ids : List UInt32) :
    w.close ids = w := by
  rw [close]
  split
  · rw [← h]
  · rfl

/-- The ids of windows are the ids of their records. -/
theorem ids_records (ws : List Window) :
    Roster.ids (ws.map record) = ws.map fun w => w.opener.id := by
  rw [Roster.ids, List.map_map]
  rfl

end Window

/-! ### Popped ids -/

namespace Aggregation

/-- The ids that a pass pops: those in front that wait no more. -/
def popped (a : Aggregation) (core max : Nat) : List UInt32 :=
  (a.pendingIds core).take
    ((a.pendingIds core).length - ((a.drain core max).2.pendingIds core).length)

variable {storeCapacity queueCapacity : Nat} {a : Aggregation}

/-- What is popped, taken out and left is the roster cut in two. -/
theorem Sound.exists_cut (h : a.Sound storeCapacity queueCapacity) (core max : Nat) :
    ∃ n, a.taken core max = (a.roster core).take n ∧
      a.popped core max = (a.roster core).ids.take n ∧
      (a.drain core max).2.roster core = (a.roster core).drop n := by
  obtain ⟨n, htaken, hleft⟩ := h.roster_drain core max
  refine ⟨n, htaken, ?_, hleft⟩
  have hdrain := (h.onCore core (.drain max)).pendingIds_eq core
  have hsize : ((a.drain core max).2.pendingIds core).length = (a.roster core).length - n := by
    rw [show (a.drain core max).2.pendingIds core = _ from hdrain, Roster.length_ids]
    show ((a.drain core max).2.roster core).length = _
    rw [hleft, List.length_drop]
  -- As many ids are popped as are gone.
  rw [popped, h.pendingIds_eq, hsize, Roster.length_ids, List.take_eq_take_iff,
    Roster.length_ids]
  omega

/-- Where ids are popped the slot is reached. -/
theorem Sound.reaches_of_popped (h : a.Sound storeCapacity queueCapacity) {core max : Nat}
    {id : UInt32} (hid : id ∈ a.popped core max) : a.Reaches core := by
  refine Classical.byContradiction fun hno => ?_
  have hsame : (a.drain core max).2 = a := by
    rcases h.drain_of_not_reaches hno max with ⟨e, he⟩ | he <;> rw [he]
  rw [popped, hsame, Nat.sub_self, List.take_zero] at hid
  cases hid

/-- Merging moves no id. -/
theorem Sound.pendingIds_of_merged (h : a.Sound storeCapacity queueCapacity) {core : Nat}
    {r : Record} {count : UInt64} (hmerged : (a.absorb core r).1 = .merged count) :
    (a.absorb core r).2.pendingIds core = a.pendingIds core := by
  have hafter : (a.absorb core r).2.pendingIds core = ((a.absorb core r).2.roster core).ids :=
    (h.onCore core (.absorb r)).pendingIds_eq core
  rw [hafter, h.pendingIds_eq]
  rcases h.roster_absorb core r with ⟨-, hanswer, hroster⟩ | ⟨-, reason, he⟩
  · rw [hanswer] at hmerged
    rw [hroster]
    rcases Roster.absorb_cases storeCapacity queueCapacity (a.roster core) r with
      ⟨old, -, he⟩ | he | ⟨reason, he⟩ <;> rw [he] at hmerged ⊢
    · exact Roster.ids_bump ..
    · cases hmerged
  · rw [he]

/-- An id does not come to wait while no record of it is absorbed. -/
theorem Sound.not_mem_ids_afterCalls (h : a.Sound storeCapacity queueCapacity) {core : Nat}
    {id : UInt32} (calls : List SlotCall) (hcalls : ∀ s, .absorb s ∈ calls → s.id ≠ id)
    (hid : id ∉ (a.roster core).ids) : id ∉ ((a.afterCalls core calls).roster core).ids := by
  induction calls generalizing a with
  | nil => exact hid
  | cons call calls ih =>
    refine ih (h.onCore core call) (fun s hs => hcalls s (List.mem_cons_of_mem _ hs)) ?_
    cases call with
    | absorb r =>
      have hr : r.id ≠ id := hcalls r List.mem_cons_self
      show id ∉ ((a.absorb core r).2.roster core).ids
      rcases h.roster_absorb core r with ⟨-, -, hroster⟩ | ⟨-, reason, he⟩
      · -- Absorbing adds the id of its record at most, which is another one.
        rw [hroster]
        rcases Roster.absorb_cases storeCapacity queueCapacity (a.roster core) r with
          ⟨old, -, he⟩ | he | ⟨reason, he⟩ <;> rw [he]
        · rwa [Roster.ids_bump]
        · simp [hid, Ne.symm hr]
        · exact hid
      · rwa [he]
    | drain max =>
      -- A pass cuts ids off the front and adds none.
      obtain ⟨n, -, -, hleft⟩ := h.exists_cut core max
      show id ∉ ((a.drain core max).2.roster core).ids
      rw [hleft, Roster.ids, List.map_drop]
      exact fun hmem => hid (List.mem_of_mem_drop hmem)

end Aggregation

/-! ### Chronicles -/

/-- Slots with what was seen of one core: its windows in the order in
which they were opened, and the records that it emitted. -/
structure Chronicle where
  slots : Aggregation
  windows : List Window
  emitted : List Record

namespace Chronicle

open Aggregation

/-- A chronicle in which nothing was seen so far. -/
def begin (a : Aggregation) : Chronicle := ⟨a, [], []⟩

/-- The windows after a call on the core, by its answer. -/
def windowsAfter (core : Nat) (c : Chronicle) : SlotCall → List Window
  | .absorb r =>
    match (c.slots.absorb core r).1 with
    | .queued => c.windows ++ [.start r]
    | .merged _ => c.windows.map (.merge r.id)
    | .fallback _ _ => c.windows
  | .drain max => c.windows.map (.close (c.slots.popped core max))

/-- The records that a call on the core emits. -/
def emittedBy (core : Nat) (c : Chronicle) : SlotCall → List Record
  | .absorb _ => []
  | .drain max => c.slots.taken core max

/-- The chronicle after a call on the core. -/
def next (core : Nat) (c : Chronicle) (call : SlotCall) : Chronicle :=
  ⟨call.onCore core c.slots, c.windowsAfter core call, c.emitted ++ c.emittedBy core call⟩

/-- The chronicle after calls on the core. -/
def after (core : Nat) (c : Chronicle) (calls : List SlotCall) : Chronicle :=
  calls.foldl (next core) c

/-- Taking notes changes nothing for the slots. -/
theorem slots_after (core : Nat) (c : Chronicle) (calls : List SlotCall) :
    (c.after core calls).slots = c.slots.afterCalls core calls := by
  induction calls generalizing c with
  | nil => rfl
  | cons call calls ih => exact ih (c.next core call)

/-- The windows are closed ones, which were emitted, and behind them open
ones, which are the roster of the core. Nothing is on the roster of a
core out of reach. -/
structure Split (storeCapacity queueCapacity core : Nat) (c : Chronicle)
    (closed opened : List Window) : Prop where
  sound : c.slots.Sound storeCapacity queueCapacity
  reaches : c.slots.roster core ≠ [] → c.slots.Reaches core
  windows : c.windows = closed ++ opened
  isOpen_closed : ∀ w ∈ closed, w.isOpen = false
  isOpen_opened : ∀ w ∈ opened, w.isOpen = true
  emitted : c.emitted = closed.map Window.record
  roster : c.slots.roster core = opened.map Window.record

section
variable {storeCapacity queueCapacity core : Nat} {c : Chronicle} {closed opened : List Window}

/-- In the beginning there is no window. -/
theorem split_begin (cores attempts : Nat) :
    Split storeCapacity queueCapacity core
      (begin (Aggregation.new cores storeCapacity queueCapacity attempts)) [] [] where
  sound := sound_new ..
  reaches h := absurd (roster_new ..) h
  windows := rfl
  isOpen_closed w hw := by cases hw
  isOpen_opened w hw := by cases hw
  emitted := rfl
  roster := roster_new ..

namespace Split

variable (h : Split storeCapacity queueCapacity core c closed opened)
include h

/-- The ids that wait are those of the open windows. -/
theorem ids_roster : (c.slots.roster core).ids = opened.map fun w => w.opener.id := by
  rw [h.roster, Window.ids_records]

/-- A record that is merged counts for the open window of its id. -/
theorem merged {r : Record} {count : UInt64}
    (hreach : c.slots.Reaches core)
    (hanswer : (c.slots.absorb core r).1 = .merged count)
    (hroster : (c.slots.absorb core r).2.roster core = (c.slots.roster core).bump r.id) :
    Split storeCapacity queueCapacity core (c.next core (.absorb r)) closed
      (opened.map (.merge r.id)) where
  sound := h.sound.onCore core (.absorb r)
  reaches _ := reaches_absorb.mpr hreach
  windows := by
    -- The closed windows stay as they are, also those of the same id.
    show c.windowsAfter core (.absorb r) = _
    have hclosed : closed.map (Window.merge r.id) = closed :=
      (List.map_congr_left fun w hw => Window.merge_of_closed (h.isOpen_closed w hw) r.id).trans
        (List.map_id closed)
    rw [windowsAfter, hanswer]
    show c.windows.map (Window.merge r.id) = _
    rw [h.windows, List.map_append, hclosed]
  isOpen_closed := h.isOpen_closed
  isOpen_opened := by
    intro w hw
    obtain ⟨v, hv, rfl⟩ := List.mem_map.mp hw
    rw [Window.isOpen_merge, h.isOpen_opened v hv]
  emitted := (List.append_nil _).trans h.emitted
  roster := by
    refine hroster.trans ?_
    rw [h.roster, Roster.bump, List.map_map, List.map_map]
    exact List.map_congr_left fun w hw => (Window.record_merge (h.isOpen_opened w hw) r.id).symm

/-- A record that is queued opens a window behind all others. -/
theorem queued {r : Record} (hone : r.count = 1)
    (hreach : c.slots.Reaches core)
    (hanswer : (c.slots.absorb core r).1 = .queued)
    (hroster : (c.slots.absorb core r).2.roster core = c.slots.roster core ++ [r]) :
    Split storeCapacity queueCapacity core (c.next core (.absorb r)) closed
      (opened ++ [.start r]) where
  sound := h.sound.onCore core (.absorb r)
  reaches _ := reaches_absorb.mpr hreach
  -- The new window is the last one, behind those that are open.
  windows := by
    show c.windowsAfter core (.absorb r) = _
    rw [windowsAfter, hanswer]
    show c.windows ++ [Window.start r] = _
    rw [h.windows, List.append_assoc]
  isOpen_closed := h.isOpen_closed
  isOpen_opened := by
    intro w hw
    rcases List.mem_append.mp hw with hw | hw
    · exact h.isOpen_opened w hw
    · rw [List.mem_singleton.mp hw]
      rfl
  emitted := (List.append_nil _).trans h.emitted
  roster := by
    refine hroster.trans ?_
    rw [h.roster, List.map_append, List.map_singleton, Window.record_start hone]

/-- A record that is handed back neither opens a window nor counts for
one. -/
theorem fallback {r : Record} {reason : Fallback}
    (he : c.slots.absorb core r = (.fallback reason r, c.slots)) :
    Split storeCapacity queueCapacity core (c.next core (.absorb r)) closed opened := by
  have hnext : c.next core (.absorb r) = c := by
    rw [next, SlotCall.onCore, windowsAfter, emittedBy, he, List.append_nil]
  rw [hnext]
  exact h

/-- A pass closes the windows in front of the open ones. -/
theorem drained (max : Nat) :
    ∃ n, Split storeCapacity queueCapacity core (c.next core (.drain max))
      (closed ++ (opened.take n).map (.close (c.slots.popped core max))) (opened.drop n) := by
  obtain ⟨n, htaken, hpopped, hleft⟩ := h.sound.exists_cut core max
  have hids := h.ids_roster
  have hdistinct : (c.slots.roster core).ids.Nodup := h.sound.distinct core
  rw [hids] at hpopped hdistinct
  rw [← List.map_take] at hpopped
  rw [← List.take_append_drop n opened, List.map_append, List.nodup_append] at hdistinct
  refine ⟨n, h.sound.onCore core (.drain max), fun hne => ?_, ?_, fun w hw => ?_,
    fun w hw => ?_, ?_, ?_⟩
  · -- What is left was there before the pass.
    refine reaches_drain.mpr (h.reaches fun hnil => hne ?_)
    show (c.slots.drain core max).2.roster core = []
    rw [hleft, hnil, List.drop_nil]
  · have hclosed : closed.map (Window.close (c.slots.popped core max)) = closed :=
      (List.map_congr_left fun w hw => Window.close_of_closed (h.isOpen_closed w hw) _).trans
        (List.map_id closed)
    -- The ids further back are none of those in front.
    have hback : (opened.drop n).map (Window.close (c.slots.popped core max)) = opened.drop n := by
      refine (List.map_congr_left fun w hw => Window.close_of_not_mem fun hmem => ?_).trans
        (List.map_id _)
      rw [hpopped] at hmem
      exact hdistinct.2.2 _ hmem _ (List.mem_map_of_mem hw) rfl
    show c.windows.map (Window.close (c.slots.popped core max)) = _
    conv => lhs; rw [h.windows, ← List.take_append_drop n opened]
    rw [List.map_append, List.map_append, hclosed, hback, List.append_assoc]
  · rcases List.mem_append.mp hw with hw | hw
    · exact h.isOpen_closed w hw
    · obtain ⟨v, hv, rfl⟩ := List.mem_map.mp hw
      refine Window.close_of_mem ?_
      rw [hpopped]
      exact List.mem_map_of_mem hv
  · exact h.isOpen_opened w (List.mem_of_mem_drop hw)
  · have hrecords : ((opened.take n).map (Window.close (c.slots.popped core max))).map Window.record
        = (opened.take n).map Window.record := by
      rw [List.map_map]
      exact List.map_congr_left fun w _ => Window.record_close _ w
    show c.emitted ++ c.slots.taken core max = _
    rw [List.map_append, hrecords, h.emitted, htaken, h.roster, List.map_take]
  · show (c.slots.drain core max).2.roster core = _
    rw [hleft, h.roster, List.map_drop]

/-- Each call keeps the split. -/
theorem next (call : SlotCall) (hone : ∀ r, call = .absorb r → r.count = 1) :
    ∃ closed' opened',
      Split storeCapacity queueCapacity core (c.next core call) closed' opened' := by
  cases call with
  | absorb r =>
    rcases h.sound.roster_absorb core r with ⟨hreach, hanswer, hroster⟩ | ⟨-, reason, he⟩
    · rcases Roster.absorb_cases storeCapacity queueCapacity (c.slots.roster core) r with
        ⟨old, -, he⟩ | he | ⟨reason, he⟩
      · rw [he] at hanswer hroster
        exact ⟨_, _, h.merged hreach hanswer hroster⟩
      · rw [he] at hanswer hroster
        exact ⟨_, _, h.queued (hone r rfl) hreach hanswer hroster⟩
      · -- The slot is full, so the record goes elsewhere and the slots stay.
        have hsame : c.slots.absorb core r = (.fallback reason r, c.slots) := by
          rw [h.sound.absorb_eq hreach.1 hreach.2, he, h.sound.setRoster_roster]
        exact ⟨_, _, h.fallback hsame⟩
    · exact ⟨_, _, h.fallback he⟩
  | drain max =>
    obtain ⟨n, hnext⟩ := h.drained max
    exact ⟨_, _, hnext⟩

/-- Any calls keep the split. -/
theorem after (calls : List SlotCall) (hone : ∀ r, .absorb r ∈ calls → r.count = 1) :
    ∃ closed' opened',
      Split storeCapacity queueCapacity core (c.after core calls) closed' opened' := by
  induction calls generalizing c closed opened with
  | nil => exact ⟨closed, opened, h⟩
  | cons call calls ih =>
    have hcall : ∀ r, call = .absorb r → r.count = 1 := by
      rintro r rfl
      exact hone r List.mem_cons_self
    -- Which windows are closed and which are open is told anew after each call.
    obtain ⟨_, _, hnext⟩ := h.next call hcall
    exact ih hnext fun r hr => hone r (List.mem_cons_of_mem _ hr)

/-- What waits on the core are the records of the open windows. -/
theorem waitingOn_eq : c.slots.waitingOn core = opened.map fun w => some w.record := by
  rw [h.sound.waitingOn_eq, h.roster, List.map_map]
  rfl

/-- What was emitted, and behind it what waits, are the records of the
windows. -/
theorem records_eq :
    c.emitted.map some ++ c.slots.waitingOn core = c.windows.map fun w => some w.record := by
  rw [h.waitingOn_eq, h.windows, List.map_append, h.emitted, List.map_map]
  rfl

/-- As many windows are closed as records were emitted, and as many are
open as ids wait. -/
theorem isOpen_windows :
    c.windows.map Window.isOpen
      = List.replicate c.emitted.length false
        ++ List.replicate (c.slots.waitingOn core).length true := by
  have hclosed : closed.map Window.isOpen = List.replicate closed.length false :=
    List.map_eq_replicate_iff.mpr h.isOpen_closed
  have hopened : opened.map Window.isOpen = List.replicate opened.length true :=
    List.map_eq_replicate_iff.mpr h.isOpen_opened
  rw [h.windows, List.map_append, hclosed, hopened, h.waitingOn_eq, h.emitted, List.length_map,
    List.length_map]

/-- No two open windows have the same id. -/
theorem nodup_open : ((c.windows.filter Window.isOpen).map fun w => w.opener.id).Nodup := by
  -- None of the closed windows is among them.
  have hnone : closed.filter Window.isOpen = [] := by
    refine List.filter_eq_nil_iff.mpr ?_
    intro w hw
    rw [h.isOpen_closed w hw]
    exact Bool.false_ne_true
  have hfilter : c.windows.filter Window.isOpen = opened := by
    rw [h.windows, List.filter_append, hnone, List.filter_eq_self.mpr h.isOpen_opened]
    rfl
  -- The open windows have the ids of the roster.
  rw [hfilter, ← h.ids_roster]
  exact h.sound.distinct core

/-- A record is merged exactly while a window of its id is open. -/
theorem merged_iff (r : Record) :
    (∃ count, (c.slots.absorb core r).1 = .merged count) ↔
      ∃ w ∈ c.windows, w.isOpen = true ∧ w.opener.id = r.id := by
  have hopen : (∃ w ∈ c.windows, w.isOpen = true ∧ w.opener.id = r.id) ↔
      r.id ∈ (c.slots.roster core).ids := by
    rw [h.ids_roster, h.windows, List.mem_map]
    constructor
    · rintro ⟨w, hw, hisOpen, hid⟩
      rcases List.mem_append.mp hw with hw | hw
      · rw [h.isOpen_closed w hw] at hisOpen
        cases hisOpen
      · exact ⟨w, hw, hid⟩
    · rintro ⟨w, hw, hid⟩
      exact ⟨w, List.mem_append_right _ hw, h.isOpen_opened w hw, hid⟩
  rw [hopen]
  rcases h.sound.roster_absorb core r with ⟨-, hanswer, -⟩ | ⟨hno, reason, he⟩
  · rw [hanswer, Roster.merged_iff]
  · -- Out of reach no record is stored, and the answer is no merge.
    have hnil : c.slots.roster core = [] := Decidable.byContradiction fun hne => hno (h.reaches hne)
    simp [he, hnil]

/-- An id that was popped, and of which nothing was absorbed since, opens
a window as soon as there is room. -/
theorem fresh (max : Nat) (rest : List SlotCall) {r : Record}
    (hpopped : r.id ∈ c.slots.popped core max) (hrest : ∀ s, .absorb s ∈ rest → s.id ≠ r.id) :
    let d := (c.next core (.drain max)).after core rest
    (∀ count, (d.slots.absorb core r).1 ≠ .merged count) ∧
    ((d.slots.waitingOn core).length < min storeCapacity queueCapacity →
      (d.next core (.absorb r)).windows = d.windows ++ [.start r]) := by
  intro d
  have hslots : d.slots = ((c.slots.drain core max).2).afterCalls core rest := slots_after ..
  have hpass : ((c.slots.drain core max).2).Sound storeCapacity queueCapacity :=
    h.sound.onCore core (.drain max)
  have hsound : d.slots.Sound storeCapacity queueCapacity := hslots ▸ hpass.afterCalls core rest
  have hreach : d.slots.Reaches core := by
    rw [hslots, reaches_afterCalls]
    exact reaches_drain.mpr (h.sound.reaches_of_popped hpopped)
  have hnew : r.id ∉ (d.slots.roster core).ids := by
    rw [hslots]
    refine hpass.not_mem_ids_afterCalls rest hrest ?_
    -- The id stood in front of the roster that the pass cut, so it does not stand behind.
    obtain ⟨n, -, hfront, hleft⟩ := h.sound.exists_cut core max
    have hdistinct : (c.slots.roster core).ids.Nodup := h.sound.distinct core
    rw [← List.take_append_drop n (c.slots.roster core).ids, List.nodup_append] at hdistinct
    rw [hfront] at hpopped
    rw [hleft, Roster.ids, List.map_drop]
    exact fun hmem => hdistinct.2.2 _ hpopped _ hmem rfl
  have habsorb := hsound.absorb_eq hreach.1 hreach.2 r
  refine ⟨fun count hmerged => ?_, fun hroom => ?_⟩
  · rw [habsorb] at hmerged
    exact hnew ((Roster.merged_iff ..).mp ⟨count, hmerged⟩)
  · rw [hsound.waitingOn_eq, List.length_map] at hroom
    rw [Roster.absorb_of_room hnew hroom] at habsorb
    show d.windowsAfter core (.absorb r) = _
    rw [windowsAfter, habsorb]

end Split

end

/-- Any calls on a core from fresh slots on, by records that stand for
one notification each.

The records that were emitted, and behind them those that wait, are the
windows in the order in which they were opened: each is the record that
opened the window, with one for itself and one for each record merged
while the window was open as its count. The windows of the emitted
records are closed and the others open, no two of one id. A record is
merged exactly while a window of its id is open, and that moves no id.
An id that was popped, and of which nothing was absorbed since, is not
merged; where both containers have room it opens a window. -/
theorem windows_in_order (cores storeCapacity queueCapacity attempts core : Nat)
    (calls : List SlotCall) (hone : ∀ r, .absorb r ∈ calls → r.count = 1) :
    let start := begin (Aggregation.new cores storeCapacity queueCapacity attempts)
    let c := start.after core calls
    c.emitted.map some ++ c.slots.waitingOn core = c.windows.map (fun w => some w.record) ∧
    c.windows.map Window.isOpen
      = List.replicate c.emitted.length false
        ++ List.replicate (c.slots.waitingOn core).length true ∧
    ((c.windows.filter Window.isOpen).map fun w => w.opener.id).Nodup ∧
    (∀ r, (∃ count, (c.slots.absorb core r).1 = .merged count) ↔
      ∃ w ∈ c.windows, w.isOpen = true ∧ w.opener.id = r.id) ∧
    (∀ r count, (c.slots.absorb core r).1 = .merged count →
      (c.slots.absorb core r).2.pendingIds core = c.slots.pendingIds core) ∧
    ∀ before max rest r, calls = before ++ .drain max :: rest →
      r.id ∈ (start.after core before).slots.popped core max →
      (∀ s, .absorb s ∈ rest → s.id ≠ r.id) →
      (∀ count, (c.slots.absorb core r).1 ≠ .merged count) ∧
      ((c.slots.waitingOn core).length < min storeCapacity queueCapacity →
        (c.next core (.absorb r)).windows = c.windows ++ [.start r]) := by
  intro start c
  have hstart : Split storeCapacity queueCapacity core start [] [] := split_begin cores attempts
  obtain ⟨closed, opened, h⟩ := hstart.after calls hone
  refine ⟨h.records_eq, h.isOpen_windows, h.nodup_open, h.merged_iff, ?_, ?_⟩
  · intro r count hmerged
    exact h.sound.pendingIds_of_merged hmerged
  · intro before max rest r hcalls hpopped hrest
    have honeBefore : ∀ s, .absorb s ∈ before → s.count = 1 := by
      intro s hs
      refine hone s ?_
      rw [hcalls]
      exact List.mem_append_left _ hs
    obtain ⟨_, _, hbefore⟩ := hstart.after before honeBefore
    -- The run is cut behind the pass that popped the id.
    have hc : c = ((start.after core before).next core (.drain max)).after core rest := by
      show start.after core calls = _
      rw [hcalls]
      exact List.foldl_append
    rw [hc]
    exact hbefore.fresh max rest hpopped hrest

/-- A store and a queue for two records. The third id finds no room, the
first id is merged once and popped, and comes back in a window of its
own behind the second. -/
theorem windows_in_order_twice_opened :
    let first : Record := { (default : Record) with id := 7, count := 1 }
    let second : Record := { first with id := 8 }
    let third : Record := { first with id := 9 }
    let calls : List SlotCall :=
      [.absorb first, .absorb second, .absorb { first with mark := 5 }, .absorb third, .drain 1,
        .absorb { first with mark := 6 }]
    let c := (begin (Aggregation.new 2 2 2 3)).after 1 calls
    (∀ r, .absorb r ∈ calls → r.count = 1) ∧
    c.emitted = [{ first with count := 2 }] ∧
    c.slots.waitingOn 1 = [some second, some { first with mark := 6 }] ∧
    c.emitted.map some ++ c.slots.waitingOn 1 = c.windows.map (fun w => some w.record) ∧
    c.windows = [⟨first, 1, false⟩, ⟨second, 0, true⟩, ⟨{ first with mark := 6 }, 0, true⟩] := by
  intro first second third calls c
  have hone : ∀ r, .absorb r ∈ calls → r.count = 1 := by
    intro r hr
    simp only [calls, List.mem_cons, SlotCall.absorb.injEq, reduceCtorEq, false_or, or_false,
      List.not_mem_nil] at hr
    rcases hr with rfl | rfl | rfl | rfl | rfl <;> rfl
  refine ⟨hone, ?_, ?_, (windows_in_order 2 2 2 3 1 calls hone).1, ?_⟩
  all_goals
    simp only [c, calls, first, second, third]
    decide +kernel

end Chronicle

end RuleTrace
