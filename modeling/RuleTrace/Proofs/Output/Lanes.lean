import RuleTrace.Proofs.Output.Channel

/-!
# `RuleTrace.Proofs.Output.Lanes`: lane by lane

`Channel.waitingIn` is what waits in one lane, in order. A record that
is accepted goes behind the others of its lane (`publish_cases`), a
record that is read comes from the front of one lane, and no other lane
is touched.

`Channel.turn` names the lane that the next read serves: the first in
the order of reading in which a record waits. `readsUpTo` notes the lane
of each record that is read, and `waitingIn_receiveUpTo` is the law of
reading: what was read from a lane and what still waits in it is what
waited there.

`Channel.Regular` is what all lanes of a channel have in common for as
long as it is used: their number, their capacity, and whether they are
closed.
-/

set_option autoImplicit false

namespace RuleTrace

namespace Channel

variable {c d : Channel}

/-- The records that wait in one lane, the oldest first. -/
def waitingIn (c : Channel) (i : Nat) : List Record :=
  ((c.lanes[i]?).map fun l => l.buffer.items).getD []

/-- What waits in a lane is what its buffer holds. -/
theorem waitingIn_eq {i : Nat} {l : Lane} (h : c.lanes[i]? = some l) :
    c.waitingIn i = l.buffer.items := by
  rw [waitingIn, h]
  rfl

/-- In a new lane nothing waits. -/
theorem waitingIn_new (mode : OutputMode) (cores capacity i : Nat) :
    (Channel.new mode cores capacity).waitingIn i = [] := by
  rw [waitingIn, Channel.new, List.getElem?_replicate]
  split <;> rfl

/-- Closing takes nothing out of a lane. -/
@[simp] theorem waitingIn_close (c : Channel) (i : Nat) : c.close.waitingIn i = c.waitingIn i := by
  rw [waitingIn, waitingIn, close, List.getElem?_map]
  cases c.lanes[i]? <;> rfl

/-- Without a record anywhere no lane has one. -/
theorem waitingIn_of_waiting_eq_nil (h : c.waiting = []) (i : Nat) : c.waitingIn i = [] := by
  rw [waitingIn]
  cases hlane : c.lanes[i]? with
  | none => rfl
  | some l => exact List.flatMap_eq_nil_iff.mp h l (List.mem_of_getElem? hlane)

/-- Where one lane is replaced, the others keep what waits in them. -/
theorem waitingIn_of_set {i : Nat} {l m : Lane} (h : c.lanes[i]? = some l)
    (hd : d.lanes = c.lanes.set i m) (j : Nat) :
    d.waitingIn j = if j = i then m.buffer.items else c.waitingIn j := by
  have hi : i < c.lanes.length := (List.getElem?_eq_some_iff.mp h).1
  rw [waitingIn, waitingIn, hd]
  by_cases hj : j = i
  · rw [if_pos hj, hj, List.getElem?_set_self hi]
    rfl
  · rw [if_neg hj, List.getElem?_set_ne (Ne.symm hj)]

/-- A record that is accepted goes behind the others of its lane. -/
theorem waitingIn_publish {core : Nat} {r : Record} (h : c.publish core r = .ok d) (i : Nat) :
    d.waitingIn i = c.waitingIn i ++ if c.laneOf core = i then [r] else [] := by
  obtain ⟨l, m, hlane, hpublish, rfl⟩ := exists_lane_of_publish h
  rw [waitingIn_of_set hlane rfl]
  by_cases hi : i = c.laneOf core
  · rw [if_pos hi, if_pos hi.symm, hi, waitingIn_eq hlane, Lane.items_of_publish hpublish]
  · rw [if_neg hi, if_neg (Ne.symm hi), List.append_nil]

/-! ### Whose turn it is -/

/-- The lane that the next read serves: the first in the order of reading
in which a record waits. -/
def turn (c : Channel) : Nat := (c.order.find? fun i => !(c.waitingIn i).isEmpty).getD 0

/-- The lane whose turn it is exists. -/
theorem turn_lt (h : 0 < c.laneCount) : c.turn < c.laneCount := by
  rw [turn]
  cases hfind : c.order.find? fun i => !(c.waitingIn i).isEmpty with
  | none => exact h
  | some i =>
    obtain ⟨step, -, rfl⟩ := List.mem_map.mp (List.mem_of_find?_eq_some hfind)
    exact Nat.mod_lt _ h

/-- Lanes without a record are passed over. -/
theorem isSome_receive? (c : Channel) (i : Nat) :
    ((c.lanes[i]?).bind Lane.receive?).isSome = !(c.waitingIn i).isEmpty := by
  rw [waitingIn]
  cases c.lanes[i]? with
  | none => rfl
  | some l =>
    show l.receive?.isSome = !l.buffer.items.isEmpty
    rw [Lane.receive?, Fifo.pop?]
    cases l.buffer.items <;> rfl

/-- A read serves the lane whose turn it is. -/
theorem exists_turn_of_tryReceive? {r : Record} (h : c.tryReceive? = some (r, d)) :
    ∃ l m, c.lanes[c.turn]? = some l ∧ l.receive? = some (r, m) ∧ d = c.served c.turn m := by
  obtain ⟨before, i, after, l, m, horder, hbefore, hlane, hreceive, hd⟩ :=
    exists_served_of_tryReceive? h
  -- The lanes before it in the order have no record, so it is the first one that has.
  have hturn : c.turn = i := by
    have hfind : (c.order.find? fun i => !(c.waitingIn i).isEmpty) = some i := by
      refine List.find?_eq_some_iff_append.mpr ⟨?_, before, after, horder, fun j hj => ?_⟩
      · rw [← isSome_receive?, hlane, Option.bind_some, hreceive]
        rfl
      · rw [← isSome_receive?, hbefore j hj]
        rfl
    rw [turn, hfind]
    rfl
  rw [hturn]
  exact ⟨l, m, hlane, hreceive, hd⟩

/-! ### Reading -/

/-- The records of one lane, out of records with their lanes. -/
def ofLane (i : Nat) (xs : List (Nat × Record)) : List Record :=
  (xs.filter fun x => x.1 = i).map Prod.snd

/-- Of no records none is of the lane. -/
@[simp] theorem ofLane_nil (i : Nat) : ofLane i [] = [] := rfl

/-- The first record is of the lane or it is not. -/
@[simp] theorem ofLane_cons (i : Nat) (x : Nat × Record) (xs : List (Nat × Record)) :
    ofLane i (x :: xs) = (if x.1 = i then [x.2] else []) ++ ofLane i xs := by
  by_cases h : x.1 = i <;> simp [ofLane, h]

/-- The records of a lane are picked from either part. -/
@[simp] theorem ofLane_append (i : Nat) (xs ys : List (Nat × Record)) :
    ofLane i (xs ++ ys) = ofLane i xs ++ ofLane i ys := by
  rw [ofLane, List.filter_append, List.map_append]
  rfl

/-- Where there is one lane only, its records are all. -/
theorem ofLane_zero {xs : List (Nat × Record)} (h : ∀ x ∈ xs, x.1 < 1) :
    ofLane 0 xs = xs.map Prod.snd := by
  rw [ofLane, List.filter_eq_self.mpr fun x hx => decide_eq_true (Nat.lt_one_iff.mp (h x hx))]

/-- Up to `n` records as they are read, each with the lane that it comes
from. -/
def readsUpTo (c : Channel) : Nat → List (Nat × Record)
  | 0 => []
  | n + 1 =>
    match c.tryReceive? with
    | none => []
    | some (r, d) => (c.turn, r) :: d.readsUpTo n

/-- The lanes are noted beside the records, and change nothing. -/
theorem map_snd_readsUpTo (c : Channel) (n : Nat) :
    (c.readsUpTo n).map Prod.snd = (c.receiveUpTo n).1 := by
  induction n generalizing c with
  | zero => rfl
  | succ n ih =>
    rw [readsUpTo, receiveUpTo]
    cases c.tryReceive? with
    | none => rfl
    | some found => exact congrArg (found.1 :: ·) (ih found.2)

/-- One read notes the lane whose turn it is. -/
theorem readsUpTo_one (c : Channel) :
    c.readsUpTo 1 = (c.tryReceive?.map fun x => (c.turn, x.1)).toList := by
  rw [readsUpTo]
  cases c.tryReceive? <;> rfl

/-- One read is a read without waiting. -/
theorem receiveUpTo_one (c : Channel) :
    c.receiveUpTo 1
      = ((c.tryReceive?.map Prod.fst).toList, (c.tryReceive?.map Prod.snd).getD c) := by
  rw [receiveUpTo]
  cases c.tryReceive? <;> rfl

/-- One record is read from the front of the lane whose turn it is. -/
theorem waitingIn_tryReceive? {r : Record} (h : c.tryReceive? = some (r, d)) (i : Nat) :
    (if c.turn = i then [r] else []) ++ d.waitingIn i = c.waitingIn i := by
  obtain ⟨l, m, hlane, hreceive, rfl⟩ := exists_turn_of_tryReceive? h
  have hrest := waitingIn_of_set hlane (show (c.served c.turn m).lanes = _ from rfl) i
  rw [hrest]
  by_cases hi : i = c.turn
  · rw [if_pos hi.symm, if_pos hi, hi, waitingIn_eq hlane, Lane.items_of_receive? hreceive]
    rfl
  · rw [if_neg (Ne.symm hi), if_neg hi]
    rfl

/-- What was read from a lane and what still waits in it is what waited
there. -/
theorem waitingIn_receiveUpTo (c : Channel) (n i : Nat) :
    ofLane i (c.readsUpTo n) ++ (c.receiveUpTo n).2.waitingIn i = c.waitingIn i := by
  induction n generalizing c with
  | zero => rfl
  | succ n ih =>
    rw [readsUpTo, receiveUpTo]
    cases hreceive : c.tryReceive? with
    | none => rfl
    | some found =>
      obtain ⟨r, d⟩ := found
      have hone := waitingIn_tryReceive? hreceive i
      show ofLane i ((c.turn, r) :: d.readsUpTo n) ++ (d.receiveUpTo n).2.waitingIn i = _
      rw [ofLane_cons, List.append_assoc, ih d, hone]

/-- Where nothing waits nothing is read. -/
theorem receiveUpTo_of_waiting_eq_nil (h : c.waiting = []) (n : Nat) :
    c.receiveUpTo n = ([], c) := by
  cases n with
  | zero => rfl
  | succ n => rw [receiveUpTo, tryReceive?_eq_none_iff.mpr h]

/-! ### What all lanes have in common -/

/-- The lanes of a channel that was made for a mode, a number of cores
and a capacity, and of which all or none are closed. -/
structure Regular (mode : OutputMode) (cores capacity : Nat) (closed : Prop) (c : Channel) :
    Prop where
  shape_eq : c.shape = (mode, laneCountFor mode cores)
  capacity_eq : ∀ l ∈ c.lanes, l.buffer.capacity = max capacity 1
  length_le : ∀ l ∈ c.lanes, l.buffer.items.length ≤ max capacity 1
  closed_iff : ∀ l ∈ c.lanes, l.closed = true ↔ closed

/-- There is always a lane. -/
theorem laneCountFor_pos (mode : OutputMode) (cores : Nat) : 0 < laneCountFor mode cores := by
  cases mode with
  | direct => exact Nat.one_pos
  | multiplexed => exact Nat.lt_of_lt_of_le Nat.one_pos (Nat.le_max_right ..)

/-- New lanes have all in common that they should. -/
theorem regular_new (mode : OutputMode) (cores capacity : Nat) :
    (Channel.new mode cores capacity).Regular mode cores capacity False where
  shape_eq := shape_new ..
  capacity_eq l hl := by
    rw [List.eq_of_mem_replicate hl]
    rfl
  length_le l hl := by
    rw [List.eq_of_mem_replicate hl]
    exact Nat.zero_le _
  closed_iff l hl := by
    rw [List.eq_of_mem_replicate hl]
    simp [Lane.new]

namespace Regular

variable {mode : OutputMode} {cores capacity : Nat} {closed : Prop}
variable (h : c.Regular mode cores capacity closed)
include h

/-- There are as many lanes as were made. -/
theorem laneCount_eq : c.laneCount = laneCountFor mode cores := (Prod.mk.inj h.shape_eq).2

/-- In direct mode all cores write to the first lane, else each to the
lane of its number, going round. -/
theorem laneOf_eq (core : Nat) : c.laneOf core = core % laneCountFor mode cores := by
  have hpos := laneCountFor_pos mode cores
  obtain ⟨hmode, hcount⟩ := Prod.mk.inj h.shape_eq
  rw [laneOf, hmode, hcount]
  cases mode with
  | direct => exact (Nat.mod_one core).symm
  | multiplexed =>
    show core % max (laneCountFor .multiplexed cores) 1 = _
    rw [Nat.max_eq_left hpos]

/-- The lane that a core writes to exists. -/
theorem laneOf_lt (core : Nat) : c.laneOf core < c.laneCount := by
  rw [h.laneOf_eq, h.laneCount_eq]
  exact Nat.mod_lt _ (laneCountFor_pos mode cores)

/-- No lane holds more than it has room for. -/
theorem length_waitingIn_le (i : Nat) : (c.waitingIn i).length ≤ max capacity 1 := by
  rw [waitingIn]
  cases hlane : c.lanes[i]? with
  | none => exact Nat.zero_le _
  | some l => exact h.length_le l (List.mem_of_getElem? hlane)

/-- A lane that is replaced by one of its kind. -/
theorem set {i : Nat} {m : Lane} {d : Channel} (hmode : d.mode = c.mode)
    (hlanes : d.lanes = c.lanes.set i m) (hcapacity : m.buffer.capacity = max capacity 1)
    (hlength : m.buffer.items.length ≤ max capacity 1) (hclosed : m.closed = true ↔ closed) :
    d.Regular mode cores capacity closed := by
  -- A lane is the new one, or it was there before.
  have hmem : ∀ l ∈ d.lanes, l ∈ c.lanes ∨ l = m := by
    intro l hl
    rw [hlanes] at hl
    exact List.mem_or_eq_of_mem_set hl
  refine ⟨(shape_of_set hmode hlanes).trans h.shape_eq, fun l hl => ?_, fun l hl => ?_,
    fun l hl => ?_⟩
  · rcases hmem l hl with hl | rfl
    · exact h.capacity_eq l hl
    · exact hcapacity
  · rcases hmem l hl with hl | rfl
    · exact h.length_le l hl
    · exact hlength
  · rcases hmem l hl with hl | rfl
    · exact h.closed_iff l hl
    · exact hclosed

/-- A record is refused because the channel is closed, or because its
lane is full, or it goes behind the others of its lane. -/
theorem publish_cases (core : Nat) (r : Record) :
    (closed ∧ c.publish core r = .error .closed) ∨
    (¬ closed ∧ (c.waitingIn (c.laneOf core)).length = max capacity 1 ∧
      c.publish core r = .error .full) ∨
    (¬ closed ∧ (c.waitingIn (c.laneOf core)).length < max capacity 1 ∧
      ∃ d, c.publish core r = .ok d ∧ d.Regular mode cores capacity closed ∧
        ∀ i, d.waitingIn i = c.waitingIn i ++ if c.laneOf core = i then [r] else []) := by
  -- A regular channel has the lane of every core, and all its lanes are alike.
  obtain ⟨l, hlane⟩ : ∃ l, c.lanes[c.laneOf core]? = some l :=
    ⟨_, List.getElem?_eq_getElem (h.laneOf_lt core)⟩
  have hmem : l ∈ c.lanes := List.mem_of_getElem? hlane
  have hcapacity := h.capacity_eq l hmem
  have hlength := h.length_le l hmem
  have hclosed := h.closed_iff l hmem
  have hpublish : c.publish core r = (l.publish r).map fun lane =>
      { c with lanes := c.lanes.set (c.laneOf core) lane } := by
    rw [publish, hlane]
  rw [hpublish, waitingIn_eq hlane]
  rcases l.publish_cases r with ⟨hl, he⟩ | ⟨hl, hfull, he⟩ | ⟨hl, hroom, he⟩ <;> rw [he]
  · exact .inl ⟨hclosed.mp hl, rfl⟩
  · have hopen : ¬ closed := fun hc => by simp [hclosed.mpr hc] at hl
    exact .inr (.inl ⟨hopen, by omega, rfl⟩)
  · have hopen : ¬ closed := fun hc => by simp [hclosed.mpr hc] at hl
    refine .inr (.inr ⟨hopen, by omega, _, rfl, ?_, fun i => ?_⟩)
    · refine h.set rfl rfl hcapacity ?_ hclosed
      simp only [List.length_append, List.length_singleton]
      omega
    · exact waitingIn_publish (by rw [hpublish, he]; rfl) i

/-- Reading keeps what the lanes have in common. -/
theorem tryReceive? {r : Record} (hreceive : c.tryReceive? = some (r, d)) :
    d.Regular mode cores capacity closed := by
  obtain ⟨l, m, hlane, hfront, rfl⟩ := exists_turn_of_tryReceive? hreceive
  have hmem : l ∈ c.lanes := List.mem_of_getElem? hlane
  obtain ⟨rest, hitems, rfl⟩ := Lane.eq_of_receive? hfront
  have hlength := h.length_le l hmem
  rw [hitems, List.length_cons] at hlength
  exact h.set rfl rfl (h.capacity_eq l hmem) (by dsimp only; omega) (h.closed_iff l hmem)

/-- So does reading several records. -/
theorem receiveUpTo (n : Nat) : (c.receiveUpTo n).2.Regular mode cores capacity closed := by
  induction n generalizing c with
  | zero => exact h
  | succ n ih =>
    rw [Channel.receiveUpTo]
    cases hreceive : c.tryReceive? with
    | none => exact h
    | some found => exact ih (h.tryReceive? hreceive)

/-- Each record comes from one of the lanes. -/
theorem readsUpTo_lt (n : Nat) : ∀ x ∈ c.readsUpTo n, x.1 < laneCountFor mode cores := by
  induction n generalizing c with
  | zero =>
    intro x hx
    cases hx
  | succ n ih =>
    rw [readsUpTo]
    cases hreceive : c.tryReceive? with
    | none =>
      intro x hx
      cases hx
    | some found =>
      intro x hx
      rcases List.mem_cons.mp hx with rfl | hx
      · have hturn := turn_lt (c := c) (by rw [h.laneCount_eq]; exact laneCountFor_pos mode cores)
        rwa [h.laneCount_eq] at hturn
      · exact ih (h.tryReceive? hreceive) x hx

/-- Closing closes all lanes. -/
theorem close : c.close.Regular mode cores capacity True where
  shape_eq := (shape_close c).trans h.shape_eq
  capacity_eq l hl := by
    obtain ⟨k, hk, rfl⟩ := List.mem_map.mp hl
    exact h.capacity_eq k hk
  length_le l hl := by
    obtain ⟨k, hk, rfl⟩ := List.mem_map.mp hl
    exact h.length_le k hk
  closed_iff l hl := by
    obtain ⟨k, -, rfl⟩ := List.mem_map.mp hl
    simp

end Regular

end Channel

end RuleTrace
