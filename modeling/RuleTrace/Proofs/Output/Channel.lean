import RuleTrace.Output.Channel
import RuleTrace.Proofs.Tally

/-!
# `RuleTrace.Proofs.Output.Channel`: what waits in the lanes

A channel takes a record in or refuses it, and gives each record out
once. This module says so for sums over the records that wait
(`Channel.waiting`): publishing adds the record, reading takes it away,
closing changes nothing. Order and fairness are left aside. Polling
needs no account of its own, for it finds what a reader finds that does
not wait (`toOption_poll`).

Of several records that are offered one after another,
`Channel.refused` lists those that the channel does not take. Each
decision depends on the lanes as the earlier records left them, so it
follows the same recursion as publishing them all
(`Channel.publishAll`).

A read finds something whenever something waits: the reader's order
goes round all lanes (`mem_order`). So reading as often as records wait
empties the channel (`waiting_drain`).

The mode and the number of lanes (`Channel.shape`) are the same however
the channel is used.
-/

set_option autoImplicit false

namespace RuleTrace

/-- What a reader that could wait finds without waiting. -/
def Poll.toOption {α : Type} : Poll α → Option α
  | .ready item => some item
  | .pending => none
  | .ended => none

namespace Lane

/-- A lane refuses a record because it is closed, or because it is full,
or puts it behind the others. -/
theorem publish_cases (l : Lane) (r : Record) :
    (l.closed = true ∧ l.publish r = .error .closed) ∨
    (l.closed = false ∧ l.buffer.capacity ≤ l.buffer.items.length ∧
      l.publish r = .error .full) ∨
    (l.closed = false ∧ l.buffer.items.length < l.buffer.capacity ∧
      l.publish r = .ok { l with buffer := ⟨l.buffer.items ++ [r], l.buffer.capacity⟩ }) := by
  rw [publish]
  cases hclosed : l.closed with
  | true => exact .inl ⟨rfl, rfl⟩
  | false =>
    have hfull : l.buffer.isFull = decide (l.buffer.capacity ≤ l.buffer.items.length) := rfl
    rw [Fifo.push?, hfull]
    by_cases hroom : l.buffer.capacity ≤ l.buffer.items.length
    · simp [hroom]
    · have hroom' := Nat.lt_of_not_le hroom
      simp [hroom, hroom']

/-- The lane without its oldest record. -/
theorem eq_of_receive? {l m : Lane} {r : Record} (h : l.receive? = some (r, m)) :
    ∃ rest, l.buffer.items = r :: rest ∧
      m = { l with buffer := ⟨rest, l.buffer.capacity⟩ } := by
  rw [receive?, Fifo.pop?] at h
  cases hitems : l.buffer.items with
  | nil => simp [hitems] at h
  | cons x rest =>
    simp only [hitems, Option.map_some, Option.some.injEq, Prod.mk.injEq] at h
    obtain ⟨rfl, rfl⟩ := h
    exact ⟨rest, rfl, rfl⟩

/-- A record that is accepted stands behind those that wait. -/
theorem items_of_publish {l m : Lane} {r : Record} (h : l.publish r = .ok m) :
    m.buffer.items = l.buffer.items ++ [r] := by
  rcases l.publish_cases r with ⟨-, he⟩ | ⟨-, -, he⟩ | ⟨-, -, he⟩ <;> rw [he] at h <;> cases h
  rfl

/-- The record that is read stood in front of all others. -/
theorem items_of_receive? {l m : Lane} {r : Record} (h : l.receive? = some (r, m)) :
    l.buffer.items = r :: m.buffer.items := by
  obtain ⟨rest, hitems, rfl⟩ := eq_of_receive? h
  exact hitems

/-- Nothing is read from a lane in which nothing waits. -/
theorem receive?_eq_none {l : Lane} : l.receive? = none ↔ l.buffer.items = [] := by
  rw [receive?, Fifo.pop?]
  cases l.buffer.items <;> simp

end Lane

namespace Channel

/-- The records that wait in the lanes. -/
def waiting (c : Channel) : List Record := c.lanes.flatMap fun l => l.buffer.items

/-- Offers records from one core, one after another. -/
def publishAll (core : Nat) : Channel → List Record → Channel
  | c, [] => c
  | c, r :: rs =>
    match c.publish core r with
    | .ok d => publishAll core d rs
    | .error _ => publishAll core c rs

/-- Of records that one core offers one after another, those that are
not accepted. -/
def refused (core : Nat) : Channel → List Record → List Record
  | _, [] => []
  | c, r :: rs =>
    match c.publish core r with
    | .ok d => refused core d rs
    | .error _ => r :: refused core c rs

variable (f : Record → Nat)

/-- The number of records that wait. -/
theorem length_waiting (c : Channel) : c.waiting.length = c.buffered := by
  rw [waiting, buffered]
  induction c.lanes with
  | nil => rfl
  | cons l lanes ih =>
    rw [List.flatMap_cons, List.length_append, ih]
    rfl

/-- In new lanes nothing waits. -/
theorem waiting_new (mode : OutputMode) (cores capacity : Nat) :
    (Channel.new mode cores capacity).waiting = [] := by
  refine List.flatMap_eq_nil_iff.mpr fun l hl => ?_
  rw [List.eq_of_mem_replicate hl]
  rfl

/-- What waits is kept when the lanes are closed. -/
@[simp] theorem waiting_close (c : Channel) : c.close.waiting = c.waiting := List.flatMap_map ..

/-! ### Publishing -/

/-- A record that is accepted goes to the lane of its core, and nothing
else changes. -/
theorem exists_lane_of_publish {c d : Channel} {core : Nat} {r : Record}
    (h : c.publish core r = .ok d) :
    ∃ l m, c.lanes[c.laneOf core]? = some l ∧ l.publish r = .ok m ∧
      d = { c with lanes := c.lanes.set (c.laneOf core) m } := by
  rw [publish] at h
  cases hlane : c.lanes[c.laneOf core]? with
  | none => simp [hlane] at h
  | some l =>
    simp only [hlane] at h
    cases hpublish : l.publish r with
    | error e =>
      rw [hpublish] at h
      cases h
    | ok m =>
      rw [hpublish] at h
      cases h
      exact ⟨l, m, rfl, hpublish, rfl⟩

/-- A record that is accepted waits from then on. -/
theorem tally_waiting_publish {c d : Channel} {core : Nat} {r : Record}
    (h : c.publish core r = .ok d) : tally f d.waiting = tally f c.waiting + f r := by
  obtain ⟨l, m, hlane, hpublish, rfl⟩ := exists_lane_of_publish h
  have hset := tally_flatMap_set f (fun l : Lane => l.buffer.items) m hlane
  simp only [Lane.items_of_publish hpublish, tally_append, tally_cons, tally_nil] at hset
  show tally f ((c.lanes.set (c.laneOf core) m).flatMap fun l => l.buffer.items) = _
  rw [waiting]
  omega

/-- Each record that is offered waits afterwards or is refused. -/
theorem tally_waiting_publishAll (core : Nat) (c : Channel) (rs : List Record) :
    tally f (c.publishAll core rs).waiting + tally f (c.refused core rs)
      = tally f c.waiting + tally f rs := by
  induction rs generalizing c with
  | nil => rfl
  | cons r rs ih =>
    rw [publishAll, refused, tally_cons]
    cases hpublish : c.publish core r with
    | ok d =>
      -- The others meet the lanes as this record leaves them.
      have hone := tally_waiting_publish f hpublish
      have hrest := ih d
      show tally f (d.publishAll core rs).waiting + tally f (d.refused core rs) = _
      omega
    | error e =>
      have hrest := ih c
      show tally f (c.publishAll core rs).waiting + tally f (r :: c.refused core rs) = _
      rw [tally_cons]
      omega

/-! ### Reading -/

/-- A record that is served leaves its lane. -/
theorem tally_waiting_served {c : Channel} {i : Nat} {l m : Lane} {r : Record}
    (hlane : c.lanes[i]? = some l) (hreceive : l.receive? = some (r, m)) :
    tally f c.waiting = f r + tally f (c.served i m).waiting := by
  have hset := tally_flatMap_set f (fun l : Lane => l.buffer.items) m hlane
  rw [Lane.items_of_receive? hreceive, tally_cons] at hset
  show _ = f r + tally f ((c.lanes.set i m).flatMap fun l => l.buffer.items)
  rw [waiting]
  omega

/-- A reader serves the first lane in the order of reading that has a
record. -/
theorem exists_served_of_tryReceive? {c d : Channel} {r : Record}
    (h : c.tryReceive? = some (r, d)) :
    ∃ before i after l m, c.order = before ++ i :: after ∧
      (∀ j ∈ before, (c.lanes[j]?).bind Lane.receive? = none) ∧
      c.lanes[i]? = some l ∧ l.receive? = some (r, m) ∧ d = c.served i m := by
  obtain ⟨before, i, after, horder, hi, hbefore⟩ := List.findSome?_eq_some_iff.mp h
  -- The lanes that stand before it in the order gave nothing.
  have hnone : ∀ j ∈ before, (c.lanes[j]?).bind Lane.receive? = none := fun j hj =>
    Option.map_eq_none_iff.mp (hbefore j hj)
  cases hlane : c.lanes[i]? with
  | none => simp [hlane] at hi
  | some l =>
    cases hreceive : l.receive? with
    | none => simp [hlane, hreceive] at hi
    | some found =>
      simp only [hlane, hreceive, Option.bind_some, Option.map_some, Option.some.injEq,
        Prod.mk.injEq] at hi
      exact ⟨before, i, after, l, found.2, horder, hnone, hlane, by rw [hreceive, ← hi.1],
        hi.2.symm⟩

/-- Polling lanes in an order finds the first record in this order. -/
theorem toOption_pollFrom (c : Channel) (order : List Nat) (ended : Nat) :
    (c.pollFrom order ended).toOption = order.findSome? fun i =>
      ((c.lanes[i]?).bind Lane.receive?).map fun (r, lane) => (r, c.served i lane) := by
  induction order generalizing ended with
  | nil =>
    rw [pollFrom]
    split <;> rfl
  | cons i order ih =>
    rw [pollFrom, List.findSome?_cons]
    cases hlane : c.lanes[i]? with
    | none => exact ih ended
    | some l =>
      simp only [Option.map_some, Option.bind_some, Lane.poll]
      cases hreceive : l.receive? with
      | some found => rfl
      | none =>
        -- An empty lane is passed over, whether it has ended or not.
        cases l.isFinished with
        | true => exact ih (ended + 1)
        | false => exact ih ended

/-- A reader that could wait finds what one finds that does not. -/
theorem toOption_poll (c : Channel) : c.poll.toOption = c.tryReceive? :=
  toOption_pollFrom c c.order 0

/-- What polling finds is found without waiting. -/
theorem tryReceive?_of_poll {c d : Channel} {r : Record} (h : c.poll = .ready (r, d)) :
    c.tryReceive? = some (r, d) := by
  rw [← toOption_poll, h]
  rfl

/-- A record that is read waits no more. -/
theorem tally_waiting_tryReceive? {c d : Channel} {r : Record} (h : c.tryReceive? = some (r, d)) :
    tally f c.waiting = f r + tally f d.waiting := by
  obtain ⟨-, i, -, l, m, -, -, hlane, hreceive, rfl⟩ := exists_served_of_tryReceive? h
  exact tally_waiting_served f hlane hreceive

/-- Nor does a record that polling finds. -/
theorem tally_waiting_poll {c d : Channel} {r : Record} (h : c.poll = .ready (r, d)) :
    tally f c.waiting = f r + tally f d.waiting :=
  tally_waiting_tryReceive? f (tryReceive?_of_poll h)

/-- What waited was read or waits still. -/
theorem tally_waiting_receiveUpTo (c : Channel) (n : Nat) :
    tally f c.waiting = tally f (c.receiveUpTo n).1 + tally f (c.receiveUpTo n).2.waiting := by
  induction n generalizing c with
  | zero => simp [receiveUpTo]
  | succ n ih =>
    rw [receiveUpTo]
    cases hreceive : c.tryReceive? with
    | none => simp
    | some found =>
      obtain ⟨r, d⟩ := found
      have hone := tally_waiting_tryReceive? f hreceive
      have hrest := ih d
      simp only [tally_cons]
      omega

/-! ### Reading until nothing waits -/

/-- The order of reading has every lane in it. -/
theorem mem_order {c : Channel} {i : Nat} (h : i < c.laneCount) : i ∈ c.order := by
  -- The step that leads from `c.next` to `i`, going round where `i` lies before it.
  refine List.mem_map.mpr ⟨(i + (c.laneCount - c.next % c.laneCount)) % c.laneCount, ?_, ?_⟩
  · exact List.mem_range.mpr (Nat.mod_lt _ (by omega))
  · have hnext := Nat.mod_lt c.next (show c.laneCount > 0 by omega)
    rw [Nat.add_mod_mod, ← Nat.mod_add_mod,
      show c.next % c.laneCount + (i + (c.laneCount - c.next % c.laneCount)) = i + c.laneCount
        by omega,
      Nat.add_mod_right, Nat.mod_eq_of_lt h]

/-- A read without a record finds all lanes empty. -/
theorem waiting_of_tryReceive?_eq_none {c : Channel} (h : c.tryReceive? = none) :
    c.waiting = [] := by
  refine List.flatMap_eq_nil_iff.mpr fun l hl => ?_
  obtain ⟨i, hi⟩ := List.mem_iff_getElem?.mp hl
  have hlt : i < c.laneCount := (List.getElem?_eq_some_iff.mp hi).1
  have hnone := List.findSome?_eq_none_iff.mp h i (mem_order hlt)
  rw [hi, Option.bind_some, Option.map_eq_none_iff] at hnone
  exact Lane.receive?_eq_none.mp hnone

/-- A read finds nothing when nothing waits. -/
theorem tryReceive?_eq_none_iff {c : Channel} : c.tryReceive? = none ↔ c.waiting = [] := by
  refine ⟨waiting_of_tryReceive?_eq_none, fun h => ?_⟩
  cases hreceive : c.tryReceive? with
  | none => rfl
  | some found =>
    have hone := tally_waiting_tryReceive? (fun _ => 1) hreceive
    rw [h, tally_nil] at hone
    omega

/-- Reading at least as often as records wait leaves none. -/
theorem waiting_receiveUpTo {c : Channel} {n : Nat} (h : c.waiting.length ≤ n) :
    (c.receiveUpTo n).2.waiting = [] := by
  induction n generalizing c with
  | zero => exact List.eq_nil_of_length_eq_zero (Nat.le_zero.mp h)
  | succ n ih =>
    rw [receiveUpTo]
    cases hreceive : c.tryReceive? with
    | none => exact waiting_of_tryReceive?_eq_none hreceive
    | some found =>
      -- One record less waits, and one read less is left.
      obtain ⟨r, d⟩ := found
      have hone := tally_waiting_tryReceive? (fun _ => 1) hreceive
      rw [tally_one, tally_one] at hone
      exact ih (by omega)

/-- Taking out all records leaves none. -/
theorem waiting_drain (c : Channel) : c.drain.2.waiting = [] :=
  waiting_receiveUpTo (Nat.le_of_eq (length_waiting c))

/-! ### How the lanes are laid out -/

/-- The mode and the number of lanes. -/
def shape (c : Channel) : OutputMode × Nat := (c.mode, c.laneCount)

/-- New lanes are as many as the mode and the cores say. -/
theorem shape_new (mode : OutputMode) (cores capacity : Nat) :
    (Channel.new mode cores capacity).shape = (mode, laneCountFor mode cores) :=
  congrArg (Prod.mk mode) List.length_replicate

/-- Replacing a lane keeps the layout. -/
theorem shape_of_set {c d : Channel} {i : Nat} {m : Lane} (hmode : d.mode = c.mode)
    (hlanes : d.lanes = c.lanes.set i m) : d.shape = c.shape := by
  rw [shape, shape, laneCount, laneCount, hmode, hlanes, List.length_set]

/-- A record that is accepted changes no layout. -/
theorem shape_publish {c d : Channel} {core : Nat} {r : Record} (h : c.publish core r = .ok d) :
    d.shape = c.shape := by
  obtain ⟨l, m, -, -, rfl⟩ := exists_lane_of_publish h
  exact shape_of_set rfl rfl

/-- Nor do records that are offered one after another. -/
theorem shape_publishAll (core : Nat) (c : Channel) (rs : List Record) :
    (c.publishAll core rs).shape = c.shape := by
  induction rs generalizing c with
  | nil => rfl
  | cons r rs ih =>
    rw [publishAll]
    cases hpublish : c.publish core r with
    | ok d => exact (ih d).trans (shape_publish hpublish)
    | error e => exact ih c

/-- Reading keeps the layout. -/
theorem shape_tryReceive? {c d : Channel} {r : Record} (h : c.tryReceive? = some (r, d)) :
    d.shape = c.shape := by
  obtain ⟨-, i, -, l, m, -, -, -, -, rfl⟩ := exists_served_of_tryReceive? h
  exact shape_of_set rfl rfl

/-- So does polling. -/
theorem shape_poll {c d : Channel} {r : Record} (h : c.poll = .ready (r, d)) :
    d.shape = c.shape :=
  shape_tryReceive? (tryReceive?_of_poll h)

/-- So does reading several records. -/
theorem shape_receiveUpTo (c : Channel) (n : Nat) : (c.receiveUpTo n).2.shape = c.shape := by
  induction n generalizing c with
  | zero => rfl
  | succ n ih =>
    rw [receiveUpTo]
    cases hreceive : c.tryReceive? with
    | none => rfl
    | some found => exact (ih found.2).trans (shape_tryReceive? hreceive)

/-- So does closing. -/
theorem shape_close (c : Channel) : c.close.shape = c.shape :=
  congrArg (Prod.mk c.mode) (List.length_map _)

/-- Where the layout is the same, a core writes to the same lane. -/
theorem laneOf_of_shape {c d : Channel} (h : d.shape = c.shape) (core : Nat) :
    d.laneOf core = c.laneOf core := by
  obtain ⟨hmode, hcount⟩ := Prod.mk.inj h
  rw [laneOf, laneOf, hmode, hcount]

end Channel

end RuleTrace
