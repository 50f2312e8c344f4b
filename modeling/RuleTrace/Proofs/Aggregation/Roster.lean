import RuleTrace.Aggregation.Basic
import RuleTrace.Proofs.Tally

/-!
# `RuleTrace.Proofs.Aggregation.Roster`: a slot is one list of records

A slot keeps its records twice: the store has them by id, the queue has
their ids in the order in which they came. `Roster` is the plain
reference, one list of records with distinct ids. `Roster.absorb` and
`Roster.drain` say what happens to it in terms of membership, length,
`take` and `drop`, and know of no second container that could
disagree.

`Slot.ofRoster` lays a roster out as a slot. The two operations of a
slot commute with it (`absorb_ofRoster`, `drain_ofRoster`), so the
invariant that ties store and queue together is that the slot is one of
these. The paths that must restore it are the rollback of an insertion
whose id found no place in the queue (`storeNew_ofRoster`) and the loop
that takes from both containers (`takeUpTo_ofRoster`).

Sums over a roster follow its operations: where a record is counted, the
sum changes for this record alone (`tally_bump`), since no other has its
id.
-/

set_option autoImplicit false

namespace RuleTrace

/-- Records in the order in which their ids came. -/
abbrev Roster := List Record

namespace Roster

/-- The ids in order. -/
def ids (l : Roster) : List UInt32 := l.map Record.id

/-- No id occurs twice. -/
def Distinct (l : Roster) : Prop := l.ids.Nodup

/-- The record with an id. -/
def find? (l : Roster) (id : UInt32) : Option Record := List.find? (fun r => r.id = id) l

/-- The roster in which the record with an id counts one more. -/
def bump (l : Roster) (id : UInt32) : Roster :=
  l.map fun r => if r.id = id then r.counting 1 else r

/-- Aggregates a record. A known id only counts; a new one needs a free
place in the store first and in the queue second. -/
def absorb (storeCapacity queueCapacity : Nat) (l : Roster) (r : Record) : Absorbed × Roster :=
  match l.find? r.id with
  | some old => (.merged (addSaturating old.count 1), l.bump r.id)
  | none =>
    if storeCapacity ≤ l.length then (.fallback .storeFull r, l)
    else if queueCapacity ≤ l.length then (.fallback .queueFull r, l)
    else (.queued, l ++ [r])

/-- Takes out the first `max` records. -/
def drain (l : Roster) (max : Nat) : (List Record × DrainReport) × Roster :=
  ((l.take max, ⟨min max l.length, 0, l.length - max⟩), l.drop max)

/-! ### Looking up and counting -/

/-- The first record is looked at first. -/
theorem find?_cons (r : Record) (l : Roster) (id : UInt32) :
    Roster.find? (r :: l) id = if r.id = id then some r else l.find? id := by
  by_cases h : r.id = id <;> simp [Roster.find?, h]

/-- There is a record with an id exactly when the id is listed. -/
theorem isSome_find? (l : Roster) (id : UInt32) : (l.find? id).isSome = decide (id ∈ l.ids) := by
  induction l with
  | nil => rfl
  | cons r l ih =>
    rw [find?_cons]
    by_cases h : r.id = id
    · simp [ids, h]
    · have h' : ¬ id = r.id := fun e => h e.symm
      simpa [ids, h, h'] using ih

/-- No record is found exactly when the id is not listed. -/
theorem find?_eq_none (l : Roster) (id : UInt32) : l.find? id = none ↔ id ∉ l.ids := by
  rw [← Option.not_isSome_iff_eq_none, isSome_find?, decide_eq_true_iff]

/-- A record that is found is listed and has the id. -/
theorem mem_of_find? {l : Roster} {id : UInt32} {r : Record} (h : l.find? id = some r) :
    r ∈ l ∧ r.id = id :=
  ⟨List.mem_of_find?_eq_some h, by simpa using List.find?_some h⟩

/-- Without records there are no ids. -/
@[simp] theorem ids_nil : Roster.ids [] = [] := rfl

/-- The id of the first record comes first. -/
@[simp] theorem ids_cons (r : Record) (l : Roster) : Roster.ids (r :: l) = r.id :: l.ids := rfl

/-- The ids of records come in the order of the records. -/
@[simp] theorem ids_append (l k : Roster) : Roster.ids (l ++ k) = l.ids ++ k.ids :=
  List.map_append

/-- There is an id for each record. -/
@[simp] theorem length_ids (l : Roster) : l.ids.length = l.length := List.length_map _

/-- Counting changes no id. -/
@[simp] theorem ids_bump (l : Roster) (id : UInt32) : (l.bump id).ids = l.ids := by
  rw [bump, ids, ids, List.map_map]
  refine List.map_congr_left fun r _ => ?_
  show (if r.id = id then r.counting 1 else r).id = r.id
  split <;> rfl

/-- Counting changes no length. -/
@[simp] theorem length_bump (l : Roster) (id : UInt32) : (l.bump id).length = l.length :=
  List.length_map _

/-- A record counts for the one with its id, or goes behind the others,
or is handed back as it came. In the last case the roster is not
touched. -/
theorem absorb_cases (storeCapacity queueCapacity : Nat) (l : Roster) (r : Record) :
    (∃ old, l.find? r.id = some old ∧
      l.absorb storeCapacity queueCapacity r
        = (.merged (addSaturating old.count 1), l.bump r.id)) ∨
    l.absorb storeCapacity queueCapacity r = (.queued, l ++ [r]) ∨
    (∃ reason, l.absorb storeCapacity queueCapacity r = (.fallback reason r, l)) := by
  rw [absorb]
  split
  · rename_i old hfind
    exact .inl ⟨old, hfind, rfl⟩
  · split
    · exact .inr (.inr ⟨.storeFull, rfl⟩)
    · split
      · exact .inr (.inr ⟨.queueFull, rfl⟩)
      · exact .inr (.inl rfl)

/-- A record is merged exactly when its id is listed. -/
theorem merged_iff (storeCapacity queueCapacity : Nat) (l : Roster) (r : Record) :
    (∃ count, (l.absorb storeCapacity queueCapacity r).1 = .merged count) ↔ r.id ∈ l.ids := by
  rw [absorb]
  cases hfind : l.find? r.id with
  | some old =>
    obtain ⟨hmem, hid⟩ := mem_of_find? hfind
    have hlisted : r.id ∈ l.ids := hid ▸ List.mem_map_of_mem hmem
    simp [hlisted]
  | none =>
    have hnew : r.id ∉ l.ids := (find?_eq_none l r.id).mp hfind
    dsimp only
    split
    · simp [hnew]
    · split <;> simp [hnew]

/-- A new record is taken where both containers have room. -/
theorem absorb_of_room {storeCapacity queueCapacity : Nat} {l : Roster} {r : Record}
    (hnew : r.id ∉ l.ids) (hroom : l.length < min storeCapacity queueCapacity) :
    l.absorb storeCapacity queueCapacity r = (.queued, l ++ [r]) := by
  rw [absorb, (find?_eq_none l r.id).mpr hnew]
  dsimp only
  rw [if_neg (by omega), if_neg (by omega)]

/-- Without records no id occurs twice. -/
theorem distinct_nil : Distinct [] := List.nodup_nil

/-- With distinct ids, each record is the one that its id leads to. -/
theorem find?_of_mem {l : Roster} (h : l.Distinct) {r : Record} (hr : r ∈ l) :
    l.find? r.id = some r := by
  induction l with
  | nil => cases hr
  | cons s l ih =>
    obtain ⟨hnew, hrest⟩ := List.nodup_cons.mp h
    rw [find?_cons]
    rcases List.mem_cons.mp hr with rfl | hmem
    · rw [if_pos rfl]
    · -- The record stands further back, so the first one has another id.
      have hid : s.id ≠ r.id := fun e => hnew (e ▸ List.mem_map_of_mem hmem)
      rw [if_neg hid, ih hrest hmem]

/-- An id that is known is not listed a second time. -/
theorem distinct_absorb {l : Roster} (h : l.Distinct) (storeCapacity queueCapacity : Nat)
    (r : Record) : (l.absorb storeCapacity queueCapacity r).2.Distinct := by
  rw [absorb]
  split
  · rw [Distinct, ids_bump]
    exact h
  · rename_i hnone
    have hnew : r.id ∉ l.ids := (find?_eq_none l r.id).mp hnone
    split
    · exact h
    · split
      · exact h
      · rw [Distinct, ids_append, List.nodup_append]
        refine ⟨h, by simp, ?_⟩
        -- The id that goes last is none of those before it.
        rintro a ha b hb rfl
        rw [ids_cons, ids_nil, List.mem_singleton] at hb
        exact hnew (hb ▸ ha)

/-- The ids are distinct, so only one record counts more. -/
theorem tally_bump (f : Record → Nat) {l : Roster} (h : l.Distinct) {id : UInt32} {old : Record}
    (hfind : l.find? id = some old) :
    tally f (l.bump id) + f old = tally f l + f (old.counting 1) := by
  induction l with
  | nil => cases hfind
  | cons r l ih =>
    obtain ⟨hnew, hrest⟩ := List.nodup_cons.mp h
    rw [find?_cons] at hfind
    split at hfind
    · -- The record is the first one, and no other has its id.
      rename_i hid
      rw [Option.some.injEq] at hfind
      subst hfind
      have hsame : bump l id = l := by
        refine (List.map_congr_left fun x hx => if_neg fun e => ?_).trans (List.map_id l)
        exact hnew (hid.trans e.symm ▸ List.mem_map_of_mem hx)
      show tally f ((if r.id = id then r.counting 1 else r) :: bump l id) + f r = _
      rw [if_pos hid, hsame, tally_cons, tally_cons]
      omega
    · -- The record stands further back, and the first one stays.
      rename_i hid
      have := ih hrest hfind
      show tally f ((if r.id = id then r.counting 1 else r) :: bump l id) + f old = _
      rw [if_neg hid, tally_cons, tally_cons]
      omega

/-- What is left of a roster has distinct ids. -/
theorem distinct_drop {l : Roster} (h : l.Distinct) (max : Nat) : Distinct (l.drop max) := by
  rw [Distinct, ids, List.map_drop]
  exact h.sublist (List.drop_sublist max _)

/-- A record is only added where both capacities leave room. -/
theorem length_absorb_le {l : Roster} {storeCapacity queueCapacity : Nat}
    (h : l.length ≤ min storeCapacity queueCapacity) (r : Record) :
    (l.absorb storeCapacity queueCapacity r).2.length ≤ min storeCapacity queueCapacity := by
  rw [absorb]
  split
  · rwa [length_bump]
  · split
    · exact h
    · split
      · exact h
      · rw [List.length_append, List.length_singleton]
        omega

end Roster

/-! ### The layout of a roster as a slot -/

namespace Store

/-- The store of a roster. -/
def ofRoster (capacity : Nat) (l : Roster) : Store := ⟨l.map fun r => (r.id, r), capacity⟩

variable (capacity : Nat)

/-- The store has a place for each record. -/
@[simp] theorem size_ofRoster (l : Roster) : (ofRoster capacity l).size = l.length :=
  List.length_map _

/-- The store finds what the roster finds. -/
theorem get?_ofRoster (l : Roster) (id : UInt32) : (ofRoster capacity l).get? id = l.find? id := by
  show (l.map fun r => (r.id, r)).lookup id = l.find? id
  induction l with
  | nil => rfl
  | cons r l ih =>
    rw [List.map_cons, List.lookup_cons, Roster.find?_cons]
    by_cases h : r.id = id
    · simp [h]
    · have h' : (id == r.id) = false := by simpa using fun e : id = r.id => h e.symm
      simpa [h, h'] using ih

/-- The store knows the ids that are listed. -/
theorem contains_ofRoster (l : Roster) (id : UInt32) :
    (ofRoster capacity l).contains id = decide (id ∈ l.ids) := by
  rw [contains, get?_ofRoster, Roster.isSome_find?]

/-- Counting in the store and on the roster commute. -/
theorem increment?_ofRoster (l : Roster) (id : UInt32) :
    (ofRoster capacity l).increment? id 1
      = (l.find? id).map fun r => (addSaturating r.count 1, ofRoster capacity (l.bump id)) := by
  -- The record is replaced under the id it has, which stays its id.
  have hreplace : (ofRoster capacity l).replace id (·.counting 1)
      = ofRoster capacity (l.bump id) := by
    simp only [replace, ofRoster, Roster.bump, List.map_map]
    congr 1
    refine List.map_congr_left fun r _ => ?_
    show (if r.id = id then (r.id, r.counting 1) else (r.id, r))
      = ((if r.id = id then r.counting 1 else r).id, if r.id = id then r.counting 1 else r)
    split <;> rfl
  rw [increment?, get?_ofRoster, hreplace]
  rfl

/-- A new record goes behind the others, if the store has room. -/
theorem insert_ofRoster {l : Roster} {r : Record} (hnew : r.id ∉ l.ids) :
    (ofRoster capacity l).insert r.id r
      = if capacity ≤ l.length then .error ⟨capacity⟩ else .ok (ofRoster capacity (l ++ [r])) := by
  rw [insert, contains_ofRoster, size_ofRoster, if_neg (by simpa using hnew)]
  by_cases h : capacity ≤ l.length
  · rw [if_pos h]
    exact if_pos h
  · rw [if_neg h]
    refine (if_neg h).trans ?_
    simp [ofRoster]

/-- Erasing an id that stands behind all others, or in front of them,
gives the roster without it back. -/
theorem erase_ofRoster (front back : Roster) {r : Record}
    (hfront : r.id ∉ front.ids) (hback : r.id ∉ back.ids) :
    (ofRoster capacity (front ++ r :: back)).erase r.id = ofRoster capacity (front ++ back) := by
  -- Where the id is not listed, nothing is erased.
  have hkeep : ∀ l : Roster, r.id ∉ l.ids →
      ((l.map fun x => (x.id, x)).filter fun e => e.1 ≠ r.id) = l.map fun x => (x.id, x) := by
    intro l hl
    refine List.filter_eq_self.mpr fun e he => ?_
    obtain ⟨x, hx, rfl⟩ := List.mem_map.mp he
    have : x.id ≠ r.id := fun e => hl (e ▸ List.mem_map_of_mem hx)
    simpa using this
  simp only [erase, ofRoster, List.map_append, List.map_cons, List.filter_append, hkeep _ hfront]
  rw [List.filter_cons_of_neg (by simp), hkeep _ hback]

end Store

/-- The id of a record goes behind the ids of a roster, if the queue has
room. -/
theorem Pending.push_ids (capacity : Nat) (l : Roster) (r : Record) :
    Pending.push ⟨l.ids, capacity⟩ r.id
      = if capacity ≤ l.length then .error ⟨capacity⟩ else .ok ⟨(l ++ [r]).ids, capacity⟩ := by
  by_cases h : capacity ≤ l.length
  · simp [push, Fifo.push?, Fifo.isFull, Fifo.size, h]
  · simp [push, Fifo.push?, Fifo.isFull, Fifo.size, h]

namespace Slot

/-- The slot that holds a roster: the store has each record under its
id, the queue has the ids. -/
def ofRoster (storeCapacity queueCapacity : Nat) (l : Roster) : Slot where
  store := .ofRoster storeCapacity l
  pending := ⟨l.ids, queueCapacity⟩

/-- The records of a slot. -/
def records (s : Slot) : Roster := s.store.entries.map Prod.snd

/-- The slot of a roster has its records. -/
@[simp] theorem records_ofRoster (storeCapacity queueCapacity : Nat) (l : Roster) :
    (ofRoster storeCapacity queueCapacity l).records = l := by
  show (l.map fun r => (r.id, r)).map Prod.snd = l
  rw [List.map_map]
  exact List.map_id l

variable {storeCapacity queueCapacity : Nat}

/-- A new record goes into store and queue, or the slot is as it was:
where the queue is full, the rollback takes out of the store what was
just put in. -/
theorem storeNew_ofRoster {l : Roster} {r : Record} (hnew : r.id ∉ l.ids) :
    (ofRoster storeCapacity queueCapacity l).storeNew r
      = if storeCapacity ≤ l.length then
          (.fallback .storeFull r, ofRoster storeCapacity queueCapacity l)
        else if queueCapacity ≤ l.length then
          (.fallback .queueFull r, ofRoster storeCapacity queueCapacity l)
        else (.queued, ofRoster storeCapacity queueCapacity (l ++ [r])) := by
  have hinsert := Store.insert_ofRoster storeCapacity hnew
  have hrollback : (Store.ofRoster storeCapacity (l ++ [r])).erase r.id
      = Store.ofRoster storeCapacity l := by
    simpa using Store.erase_ofRoster storeCapacity l [] hnew (by simp)
  have hpush := Pending.push_ids queueCapacity l r
  rw [storeNew]
  simp only [ofRoster, hinsert, hpush]
  by_cases hstore : storeCapacity ≤ l.length
  · rw [if_pos hstore, if_pos hstore]
  · rw [if_neg hstore, if_neg hstore]
    by_cases hqueue : queueCapacity ≤ l.length
    · -- The record is in the store already and has to leave it again.
      simp only [if_pos hqueue, hrollback]
    · simp only [if_neg hqueue]

/-- Absorbing a record and laying the roster out commute. -/
theorem absorb_ofRoster (l : Roster) (r : Record) :
    (ofRoster storeCapacity queueCapacity l).absorb r
      = ((l.absorb storeCapacity queueCapacity r).1,
          ofRoster storeCapacity queueCapacity (l.absorb storeCapacity queueCapacity r).2) := by
  have hincrement : (ofRoster storeCapacity queueCapacity l).store.increment? r.id 1 = _ :=
    Store.increment?_ofRoster storeCapacity l r.id
  rw [absorb, Roster.absorb, hincrement]
  cases hfind : l.find? r.id with
  | some old =>
    simp only [Option.map_some, ofRoster, Roster.ids_bump]
  | none =>
    simp only [Option.map_none]
    -- No record has the id, so a new one is to be stored.
    rw [storeNew_ofRoster ((Roster.find?_eq_none l r.id).mp hfind)]
    split
    · rfl
    · split <;> rfl

/-- The oldest id leads to its record, and both leave. -/
theorem takeOldest?_ofRoster_cons {r : Record} {l : Roster} (h : Roster.Distinct (r :: l)) :
    (ofRoster storeCapacity queueCapacity (r :: l)).takeOldest?
      = some (some r, ofRoster storeCapacity queueCapacity l) := by
  have hget : (Store.ofRoster storeCapacity (r :: l)).get? r.id = some r := by
    rw [Store.get?_ofRoster, Roster.find?_cons, if_pos rfl]
  have herase : (Store.ofRoster storeCapacity (r :: l)).erase r.id
      = Store.ofRoster storeCapacity l :=
    Store.erase_ofRoster storeCapacity [] l (by simp) (List.nodup_cons.mp h).1
  show some ((Store.ofRoster storeCapacity (r :: l)).get? r.id,
    (⟨(Store.ofRoster storeCapacity (r :: l)).erase r.id, ⟨l.ids, queueCapacity⟩⟩ : Slot)) = _
  rw [hget, herase]
  rfl

/-- The loop takes the first `max` records, finds one for each id, and
leaves the layout of the others. -/
theorem takeUpTo_ofRoster {l : Roster} (h : l.Distinct) (max : Nat) :
    (ofRoster storeCapacity queueCapacity l).takeUpTo max
      = (l.take max, 0, ofRoster storeCapacity queueCapacity (l.drop max)) := by
  induction max generalizing l with
  | zero => rfl
  | succ max ih =>
    cases l with
    | nil => rfl
    | cons r l =>
      -- One round takes the first record, and the others are distinct too.
      have hrest := ih (List.nodup_cons.mp h).2
      rw [takeUpTo, takeOldest?_ofRoster_cons h]
      simp only [hrest, List.take_succ_cons, List.drop_succ_cons]

/-- Draining and laying the roster out commute. -/
theorem drain_ofRoster {l : Roster} (h : l.Distinct) (max : Nat) :
    (ofRoster storeCapacity queueCapacity l).drain max
      = ((l.drain max).1, ofRoster storeCapacity queueCapacity (l.drain max).2) := by
  have hsize : ∀ k : Roster, (ofRoster storeCapacity queueCapacity k).pending.size = k.length :=
    Roster.length_ids
  simp only [drain, takeUpTo_ofRoster h, Roster.drain, hsize, List.length_take,
    List.length_drop]

end Slot

end RuleTrace
