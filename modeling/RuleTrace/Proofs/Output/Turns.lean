import RuleTrace.Proofs.Outlet
import RuleTrace.Proofs.Output.Journal

/-!
# `RuleTrace.Proofs.Output.Turns`: the reader is fair to the lanes

A read looks at the lanes one after another, going round, and serves the
first one in which a record waits. The next read starts behind the lane
that was served. `Channel.distance` is how many lanes a read looks at
before it comes to a given lane. It is the potential of the whole
argument: a read that serves another lane, nearer by, brings each waiting
lane nearer by as many lanes as it passed and one more
(`distance_of_turn_ne`), and the lane that was served becomes the
farthest of all.

A run is followed at its moments, the channels as they are when a
successful read takes place (`Outlet.momentsIn`). Between two moments
records are published, lanes are closed, and reads find nothing. All this
leaves the reader's place as it is and takes no record away
(`Channel.Quiet`), so `Channel.Reads` describes a run by its moments
alone. Two facts about it carry the theorem. A lane that waits is passed
by at most as many reads as its distance says (`Reads.length_le`). A
lane that waits and is nearer than another one is served before it
(`Reads.not_overtaken`).

What draining gives is stated without the reader: `Interleaving` takes
the front of the first lane that is not empty, going round, until all
are. There is only one such interleaving of given lanes
(`Interleaving.unique`).
-/

set_option autoImplicit false

namespace RuleTrace

/-! ### Going round lanes until all are empty -/

/-- A list that takes the front of the first of `n` lanes that is not
empty, at or after lane `start`, going round, and goes on behind this lane
until all lanes are empty. -/
inductive Interleaving {α : Type} (n : Nat) : Nat → (Nat → List α) → List α → Prop
  | nil {start : Nat} {lanes : Nat → List α} (hempty : ∀ i < n, lanes i = []) :
    Interleaving n start lanes []
  | cons {start steps : Nat} {lanes : Nat → List α} {x : α} {rest xs : List α}
    (hsteps : steps < n) (hpassed : ∀ s < steps, lanes ((start + s) % n) = [])
    (hfront : lanes ((start + steps) % n) = x :: rest)
    (hxs : Interleaving n (((start + steps) % n + 1) % n)
      (fun i => if i = (start + steps) % n then rest else lanes i) xs) :
    Interleaving n start lanes (x :: xs)

namespace Interleaving

variable {α : Type} {n start : Nat} {lanes : Nat → List α} {xs ys : List α}

/-- Lanes have one interleaving only. -/
theorem unique (h : Interleaving n start lanes xs) (h' : Interleaving n start lanes ys) :
    xs = ys := by
  induction h generalizing ys with
  | nil hempty =>
    cases h' with
    | nil _ => rfl
    | cons hsteps _ hfront _ =>
      rw [hempty _ (Nat.mod_lt _ (by omega))] at hfront
      cases hfront
  | @cons start steps lanes x rest xs hsteps hpassed hfront hxs ih =>
    cases h' with
    | nil hempty =>
      rw [hempty _ (Nat.mod_lt _ (by omega))] at hfront
      cases hfront
    | @cons _ steps' _ y rest' ys hsteps' hpassed' hfront' hys =>
      -- Neither passes the lane at which the other stops.
      have hsame : steps' = steps := by
        rcases Nat.lt_trichotomy steps' steps with hlt | heq | hlt
        · simp [hpassed steps' hlt] at hfront'
        · exact heq
        · simp [hpassed' steps hlt] at hfront
      subst hsame
      rw [hfront] at hfront'
      cases hfront'
      rw [ih hys]

end Interleaving

namespace Channel

variable {c d : Channel} {r : Record} {i j : Nat}

/-! ### How far a lane is from the reader's place -/

/-- How many lanes a read looks at before it comes to lane `i`. -/
def distance (c : Channel) (i : Nat) : Nat :=
  if c.next % c.laneCount ≤ i then i - c.next % c.laneCount
  else i + c.laneCount - c.next % c.laneCount

/-- Lanes at or behind the reader's place come in this turn, the others
after going round. -/
theorem distance_cases (c : Channel) (i : Nat) :
    (c.next % c.laneCount ≤ i ∧ c.distance i = i - c.next % c.laneCount) ∨
    (i < c.next % c.laneCount ∧ c.distance i = i + c.laneCount - c.next % c.laneCount) := by
  unfold distance
  split
  · rename_i hbehind
    exact .inl ⟨hbehind, rfl⟩
  · rename_i hbefore
    exact .inr ⟨Nat.lt_of_not_le hbefore, rfl⟩

/-- A read comes to every lane before it has gone round. -/
theorem distance_lt (h : i < c.laneCount) : c.distance i < c.laneCount := by
  have hstart : c.next % c.laneCount < c.laneCount := Nat.mod_lt _ (by omega)
  rcases c.distance_cases i with ⟨_, hi⟩ | ⟨_, hi⟩ <;> omega

/-- No two lanes are equally far. -/
theorem eq_of_distance_eq (hi : i < c.laneCount) (hj : j < c.laneCount)
    (h : c.distance i = c.distance j) : i = j := by
  have hstart : c.next % c.laneCount < c.laneCount := Nat.mod_lt _ (by omega)
  rcases c.distance_cases i with ⟨_, hi'⟩ | ⟨_, hi'⟩ <;>
    rcases c.distance_cases j with ⟨_, hj'⟩ | ⟨_, hj'⟩ <;> omega

/-- The lane that a read comes to after some others. -/
theorem distance_step {s : Nat} (h : s < c.laneCount) :
    c.distance ((c.next + s) % c.laneCount) = s := by
  have hstart : c.next % c.laneCount < c.laneCount := Nat.mod_lt _ (by omega)
  -- The scan reaches this lane before the last one or after going round.
  have hlane : (c.next + s) % c.laneCount
      = if c.next % c.laneCount + s < c.laneCount then c.next % c.laneCount + s
        else c.next % c.laneCount + s - c.laneCount := by
    rw [← Nat.mod_add_mod]
    split
    · rename_i hless
      exact Nat.mod_eq_of_lt hless
    · rename_i hmore
      rw [Nat.mod_eq_sub_mod (by omega), Nat.mod_eq_of_lt (by omega)]
  rw [hlane]
  unfold distance
  split <;> split <;> omega

/-! ### One read -/

/-- A place in which a record waits is one of the lanes. -/
theorem lt_of_waitingIn (h : c.waitingIn i ≠ []) : i < c.laneCount := by
  refine Nat.lt_of_not_le fun hge => h ?_
  rw [waitingIn, List.getElem?_eq_none hge]
  rfl

/-- A read that finds a record serves the first lane that is not empty. -/
theorem find?_of_tryReceive? (h : c.tryReceive? = some (r, d)) :
    (c.order.find? fun i => !(c.waitingIn i).isEmpty) = some c.turn := by
  obtain ⟨l, m, hlane, hreceive, -⟩ := exists_turn_of_tryReceive? h
  cases hfind : c.order.find? fun i => !(c.waitingIn i).isEmpty with
  | some i => simp [turn, hfind]
  | none =>
    -- The lane that is served is in the order, and a record waits there.
    have hturn : c.turn ∈ c.order := mem_order (List.getElem?_eq_some_iff.mp hlane).1
    have hempty := List.find?_eq_none.mp hfind c.turn hturn
    rw [waitingIn_eq hlane, Lane.items_of_receive? hreceive] at hempty
    simp at hempty

/-- A read passes empty lanes until it comes to the lane that it
serves. -/
theorem exists_steps_of_tryReceive? (h : c.tryReceive? = some (r, d)) :
    ∃ steps < c.laneCount, c.turn = (c.next + steps) % c.laneCount ∧
      ∀ s < steps, c.waitingIn ((c.next + s) % c.laneCount) = [] := by
  obtain ⟨-, steps, hsteps, hturn, hpassed⟩ :=
    List.find?_eq_some_iff_getElem.mp (find?_of_tryReceive? h)
  have hcount : steps < c.laneCount := by simpa [order] using hsteps
  refine ⟨steps, hcount, ?_, fun s hs => ?_⟩
  · rw [← hturn]
    simp [order]
  · simpa [order] using hpassed s hs

/-- The lane that is served waits, and no lane that waits is nearer. -/
theorem distance_turn_le (h : c.tryReceive? = some (r, d)) (hi : c.waitingIn i ≠ []) :
    c.turn < c.laneCount ∧ c.distance c.turn ≤ c.distance i := by
  obtain ⟨steps, hsteps, hturn, hpassed⟩ := exists_steps_of_tryReceive? h
  have hlane := lt_of_waitingIn hi
  refine ⟨turn_lt (by omega), ?_⟩
  rw [hturn, distance_step hsteps]
  -- A nearer lane was passed, and what is passed is empty.
  refine Nat.le_of_not_lt fun hnear => hi ?_
  have hplace : (c.next + c.distance i) % c.laneCount = i := by
    refine eq_of_distance_eq (Nat.mod_lt _ (by omega)) hlane ?_
    exact distance_step (distance_lt hlane)
  rw [← hplace]
  exact hpassed _ hnear

/-- A read keeps the number of lanes. -/
theorem laneCount_tryReceive? (h : c.tryReceive? = some (r, d)) : d.laneCount = c.laneCount :=
  (Prod.mk.inj (shape_tryReceive? h)).2

/-- The next read begins behind the lane that was served. -/
theorem next_tryReceive? (h : c.tryReceive? = some (r, d)) :
    d.next = (c.turn + 1) % c.laneCount := by
  obtain ⟨l, m, -, -, rfl⟩ := exists_turn_of_tryReceive? h
  rfl

/-- Behind a read the lanes that it has not come to are nearer, and the
others are farther, the lane that was served the farthest of all. -/
theorem distance_tryReceive? (h : c.tryReceive? = some (r, d)) (hi : i < c.laneCount) :
    d.distance i
      = if c.distance i ≤ c.distance c.turn
        then c.laneCount + c.distance i - c.distance c.turn - 1
        else c.distance i - c.distance c.turn - 1 := by
  have hturn : c.turn < c.laneCount := turn_lt (by omega)
  have hstart : c.next % c.laneCount < c.laneCount := Nat.mod_lt _ (by omega)
  -- The next read begins behind the lane that was served, or at the first one.
  have hnext : (c.turn + 1 < c.laneCount ∧ d.next % d.laneCount = c.turn + 1) ∨
      (c.turn + 1 = c.laneCount ∧ d.next % d.laneCount = 0) := by
    rw [laneCount_tryReceive? h, next_tryReceive? h, Nat.mod_mod]
    by_cases hlast : c.turn + 1 = c.laneCount
    · exact .inr ⟨hlast, by rw [hlast, Nat.mod_self]⟩
    · exact .inl ⟨by omega, Nat.mod_eq_of_lt (by omega)⟩
  have hi' := d.distance_cases i
  have hi'' := c.distance_cases i
  have hturn' := c.distance_cases c.turn
  rw [laneCount_tryReceive? h] at hi' hnext
  split <;> omega

/-- A lane that is not served goes on waiting. -/
theorem waitingIn_of_not_turn (h : c.tryReceive? = some (r, d)) (hi : c.turn ≠ i) :
    d.waitingIn i = c.waitingIn i := by
  have hrest := waitingIn_tryReceive? h i
  rwa [if_neg hi, List.nil_append] at hrest

/-- When another lane is served than one that waits, it was a nearer
one. The lane goes on waiting, and is nearer by the lanes before the one
that was served and by this one. -/
theorem distance_of_turn_ne (h : c.tryReceive? = some (r, d)) (hwaits : c.waitingIn i ≠ [])
    (hother : c.turn ≠ i) :
    d.waitingIn i ≠ [] ∧ d.distance i + c.distance c.turn + 1 = c.distance i := by
  have hlane := lt_of_waitingIn hwaits
  obtain ⟨hturn, hnearest⟩ := distance_turn_le h hwaits
  have hne : c.distance c.turn ≠ c.distance i := fun heq =>
    hother (eq_of_distance_eq hturn hlane heq)
  have hnearer := distance_tryReceive? h hlane
  rw [if_neg (by omega)] at hnearer
  exact ⟨by rwa [waitingIn_of_not_turn h hother], by omega⟩

/-- A read finds nothing when all lanes are empty. -/
theorem tryReceive?_eq_none_iff_forall : c.tryReceive? = none ↔ ∀ i, c.waitingIn i = [] := by
  constructor
  · intro h i
    exact waitingIn_of_waiting_eq_nil (tryReceive?_eq_none_iff.mp h) i
  · intro h
    cases hreceive : c.tryReceive? with
    | none => rfl
    | some found =>
      have hfront := waitingIn_tryReceive? hreceive c.turn
      simp [h] at hfront

/-! ### Runs, told by their moments -/

/-- What may happen between two reads: the reader's place stays, and no
record is taken away. -/
structure Quiet (c d : Channel) : Prop where
  laneCount_eq : d.laneCount = c.laneCount
  next_eq : d.next = c.next
  waiting : ∀ i, c.waitingIn i ≠ [] → d.waitingIn i ≠ []

namespace Quiet

/-- Nothing at all may happen. -/
theorem refl (c : Channel) : Quiet c c := ⟨rfl, rfl, fun _ => id⟩

/-- One thing may happen after another. -/
theorem trans {e : Channel} (h : Quiet c d) (h' : Quiet d e) : Quiet c e where
  laneCount_eq := h'.laneCount_eq.trans h.laneCount_eq
  next_eq := h'.next_eq.trans h.next_eq
  waiting i hi := h'.waiting i (h.waiting i hi)

/-- Between two reads no lane comes nearer or goes farther. -/
theorem distance_eq (h : Quiet c d) (i : Nat) : d.distance i = c.distance i := by
  simp [distance, h.laneCount_eq, h.next_eq]

end Quiet

/-- A record that is published comes behind those that wait. -/
theorem quiet_publish {core : Nat} (h : c.publish core r = .ok d) : Quiet c d := by
  refine ⟨(Prod.mk.inj (shape_publish h)).2, ?_, fun i hi => ?_⟩
  · obtain ⟨l, m, -, -, rfl⟩ := exists_lane_of_publish h
    rfl
  · rw [waitingIn_publish h]
    exact fun hnil => hi (List.append_eq_nil_iff.mp hnil).1

/-- Closing the lanes takes no record away. -/
theorem quiet_close (c : Channel) : Quiet c c.close := by
  refine ⟨List.length_map _, rfl, fun i hi => ?_⟩
  rwa [waitingIn_close]

/-- A run from one channel to another and its moments: the channels that
its reads found, each with a record to be read. -/
inductive Reads : Channel → List Channel → Channel → Prop
  | done {c d : Channel} (hquiet : Quiet c d) : Reads c [] d
  | read {c m d e : Channel} {ms : List Channel} {r : Record} (hquiet : Quiet c m)
    (hread : m.tryReceive? = some (r, d)) (hrest : Reads d ms e) : Reads c (m :: ms) e

namespace Reads

variable {e m : Channel} {ms ms' : List Channel}

/-- What happens before a run is part of it. -/
theorem after_quiet (hquiet : Quiet c d) (h : Reads d ms e) : Reads c ms e := by
  cases h with
  | done h => exact .done (hquiet.trans h)
  | read h hread hrest => exact .read (hquiet.trans h) hread hrest

/-- A run may follow another. -/
theorem append (h : Reads c ms d) (h' : Reads d ms' e) : Reads c (ms ++ ms') e := by
  induction h with
  | done hquiet => exact after_quiet hquiet h'
  | read hquiet hread _ ih => exact .read hquiet hread (ih h')

/-- A run may be cut between any two of its moments. -/
theorem split (h : Reads c (ms ++ ms') e) : ∃ d, Reads c ms d ∧ Reads d ms' e := by
  induction ms generalizing c with
  | nil => exact ⟨c, .done (.refl c), h⟩
  | cons m ms ih =>
    cases h with
    | read hquiet hread hrest =>
      obtain ⟨d, hms, hms'⟩ := ih hrest
      exact ⟨d, .read hquiet hread hms, hms'⟩

/-- A run may be taken to begin at its first moment. -/
theorem at_head (h : Reads c (m :: ms) e) : Reads m (m :: ms) e := by
  cases h with
  | read _ hread hrest => exact .read (.refl m) hread hrest

/-- A run keeps the number of lanes. -/
theorem laneCount_eq (h : Reads c ms e) : e.laneCount = c.laneCount := by
  induction h with
  | done hquiet => exact hquiet.laneCount_eq
  | read hquiet hread _ ih => rw [ih, laneCount_tryReceive? hread, hquiet.laneCount_eq]

/-- A lane that waits is passed by no more reads than it has lanes before
it. -/
theorem length_le (h : Reads c ms e) (hwaits : c.waitingIn i ≠ [])
    (hnever : ∀ m ∈ ms, m.turn ≠ i) : ms.length ≤ c.distance i := by
  induction h with
  | done _ => exact Nat.zero_le _
  | @read c m d e ms r hquiet hread _ ih =>
    have hwaits := hquiet.waiting i hwaits
    obtain ⟨hwaits', hnearer⟩ := distance_of_turn_ne hread hwaits (hnever m List.mem_cons_self)
    -- The lane keeps waiting and has come nearer, so the bound for the rest is less by one.
    have hrest := ih hwaits' fun m' hm' => hnever m' (List.mem_cons_of_mem m hm')
    rw [List.length_cons, ← hquiet.distance_eq i]
    omega

/-- While a lane waits, no lane that is farther is served before it. -/
theorem not_overtaken (h : Reads c ms e) (hwaits : c.waitingIn i ≠ []) (hj : j < c.laneCount)
    (hnearer : c.distance i < c.distance j) (hnever : ∀ m ∈ ms, m.turn ≠ i) :
    ∀ m ∈ ms, m.turn ≠ j := by
  induction h with
  | done _ =>
    intro m hm
    cases hm
  | @read c m d e ms r hquiet hread _ ih =>
    have hwaits := hquiet.waiting i hwaits
    have hj : j < m.laneCount := by rwa [hquiet.laneCount_eq]
    rw [← hquiet.distance_eq i, ← hquiet.distance_eq j] at hnearer
    obtain ⟨hwaits', hi'⟩ := distance_of_turn_ne hread hwaits (hnever m List.mem_cons_self)
    -- The farther lane was not passed either, so the order of the two stays.
    have hj' := distance_tryReceive? hread hj
    rw [if_neg (by omega)] at hj'
    have hrest := ih hwaits' (by rwa [laneCount_tryReceive? hread]) (by omega)
      fun m' hm' => hnever m' (List.mem_cons_of_mem m hm')
    intro x hx
    rcases List.mem_cons.mp hx with rfl | hx
    · intro heq
      rw [heq] at hi'
      omega
    · exact hrest x hx

/-- Behind a read of lane `j` any other lane that waits when the next read
takes place is served before `j` is served again. -/
theorem not_overtaken_after {first : Channel} (h : Reads c (first :: ms) e) (hi : i ≠ first.turn)
    (hwaits : ∀ m ∈ ms.head?, m.waitingIn i ≠ []) (hnever : ∀ m ∈ ms, m.turn ≠ i) :
    ∀ m ∈ ms, m.turn ≠ first.turn := by
  cases h with
  | @read _ _ d _ _ r _ hread hrest =>
    cases ms with
    | nil =>
      intro m hm
      cases hm
    | cons m ms =>
      -- The next read takes place at `m`, and until then the reader's place stays.
      have hwaits := hwaits m rfl
      have hquiet : Quiet d m := by
        cases hrest
        assumption
      have hlane := lt_of_waitingIn hwaits
      have hcount : m.laneCount = first.laneCount := by
        rw [hquiet.laneCount_eq, laneCount_tryReceive? hread]
      have hlane' : i < first.laneCount := by rwa [← hcount]
      have hturn : first.turn < first.laneCount := turn_lt (by omega)
      -- The lane that was served is the farthest now.
      have hfar := distance_tryReceive? hread hturn
      rw [if_pos (Nat.le_refl _), ← hquiet.distance_eq] at hfar
      have hnear : m.distance i < m.distance first.turn := by
        have hlt := distance_lt hlane
        have hne : m.distance i ≠ m.distance first.turn := fun heq =>
          hi (eq_of_distance_eq hlane (by rwa [hcount]) heq)
        omega
      exact hrest.at_head.not_overtaken hwaits (by rwa [hcount]) hnear hnever

variable {before after between window : List Channel} {first second : Channel}

/-- Of as many reads in a row as there are lanes one serves a lane that
waits at each of them. -/
theorem served_in_window (h : Reads c (before ++ window ++ after) e)
    (hlength : window.length = c.laneCount) (hi : i < c.laneCount)
    (hwaits : ∀ m ∈ window, m.waitingIn i ≠ []) : i ∈ window.map turn := by
  obtain ⟨d, hupto, -⟩ := h.split
  obtain ⟨s, hbefore, hwindow⟩ := hupto.split
  cases window with
  | nil =>
    rw [List.length_nil] at hlength
    omega
  | cons m ms =>
    have hrun := hwindow.at_head
    have hcount : m.laneCount = c.laneCount := by
      rw [← hrun.laneCount_eq, hwindow.laneCount_eq, hbefore.laneCount_eq]
    refine Decidable.byContradiction fun hnever => ?_
    -- The lane is nearer than there are reads that pass it.
    have hpassed := hrun.length_le (hwaits m List.mem_cons_self) fun x hx heq =>
      hnever (heq ▸ List.mem_map_of_mem hx)
    have hnear : m.distance i < m.laneCount := distance_lt (by rwa [hcount])
    omega

/-- Between two reads of one lane that follow each other any other lane
that waits is served. -/
theorem served_between (h : Reads c (before ++ (first :: between ++ second :: after)) e)
    (hsame : second.turn = first.turn) (hi : i ≠ first.turn)
    (hwaits : ∀ m ∈ between, m.waitingIn i ≠ [])
    (hnext : between = [] → second.waitingIn i ≠ []) : i ∈ between.map turn := by
  refine Decidable.byContradiction fun hnever => ?_
  -- The run from the first of the two reads to the second one.
  obtain ⟨s, -, hfirst⟩ := h.split
  have hupto : Reads s ((first :: (between ++ [second])) ++ after) e := by simpa using hfirst
  obtain ⟨d, hrun, -⟩ := hupto.split
  have hhead : ∀ m ∈ (between ++ [second]).head?, m.waitingIn i ≠ [] := by
    intro m hm
    cases between with
    | nil =>
      obtain rfl : second = m := Option.some.inj hm
      exact hnext rfl
    | cons x xs =>
      obtain rfl : x = m := Option.some.inj hm
      exact hwaits x List.mem_cons_self
  refine hrun.not_overtaken_after hi hhead (fun m hm heq => ?_) second (by simp) hsame
  rcases List.mem_append.mp hm with hm | hm
  · exact hnever (heq ▸ List.mem_map_of_mem hm)
  · rw [List.mem_singleton.mp hm] at heq
    exact hi (heq.symm.trans hsame)

/-- While a lane waits and is not served, no other lane is served
twice. -/
theorem count_turn_le_one (h : Reads c ms e) (hi : i ≠ j)
    (hwaits : ∀ m ∈ ms, m.waitingIn i ≠ []) (hnever : ∀ m ∈ ms, m.turn ≠ i) :
    (ms.map turn).count j ≤ 1 := by
  induction h with
  | done _ => simp
  | @read c m d e ms r hquiet hread hrest ih =>
    have hlater := ih (fun x hx => hwaits x (List.mem_cons_of_mem m hx))
      fun x hx => hnever x (List.mem_cons_of_mem m hx)
    rw [List.map_cons, List.count_cons]
    by_cases hturn : m.turn = j
    · -- This read serves the lane, so no later one does.
      subst hturn
      have hothers := (Reads.read hquiet hread hrest).not_overtaken_after hi
        (fun x hx => hwaits x (List.mem_cons_of_mem m (List.mem_of_mem_head? hx)))
        fun x hx => hnever x (List.mem_cons_of_mem m hx)
      have hnone : (ms.map turn).count m.turn = 0 := by
        refine List.count_eq_zero.mpr fun hmem => ?_
        obtain ⟨x, hx, heq⟩ := List.mem_map.mp hmem
        exact hothers x hx heq
      rw [hnone]
      split <;> omega
    · rw [if_neg (by simpa using hturn)]
      omega

/-- The reader stands behind the lane that was served last. -/
theorem next_eq (h : Reads c ms e) :
    ∀ m ∈ ms.getLast?, e.next = (m.turn + 1) % c.laneCount := by
  induction h with
  | done _ =>
    intro m hm
    cases hm
  | @read c m d e ms r hquiet hread hrest ih =>
    -- The last moment is this one, if no read comes after it.
    intro x hx
    cases ms with
    | nil =>
      obtain rfl : m = x := Option.some.inj hx
      cases hrest with
      | done hlast => rw [hlast.next_eq, next_tryReceive? hread, hquiet.laneCount_eq]
    | cons y ys =>
      rw [List.getLast?_cons_cons] at hx
      rw [ih x hx, laneCount_tryReceive? hread, hquiet.laneCount_eq]

end Reads

/-- The channels that up to `n` reads find, one after another. -/
def momentsUpTo (c : Channel) : Nat → List Channel
  | 0 => []
  | n + 1 =>
    match c.tryReceive? with
    | none => []
    | some (_, d) => c :: d.momentsUpTo n

/-- The lane that a read serves and the record that it finds. -/
def found? (c : Channel) : Option (Nat × Record) := c.tryReceive?.map fun x => (c.turn, x.1)

/-- A single read finds the channel as it is, or nothing. -/
theorem momentsUpTo_one (c : Channel) :
    c.momentsUpTo 1 = if c.tryReceive?.isSome then [c] else [] := by
  unfold momentsUpTo
  cases c.tryReceive? <;> rfl

/-- Reads one after another are a run. -/
theorem reads_momentsUpTo (c : Channel) (n : Nat) :
    Reads c (c.momentsUpTo n) (c.receiveUpTo n).2 := by
  induction n generalizing c with
  | zero => exact .done (.refl c)
  | succ n ih =>
    unfold momentsUpTo receiveUpTo
    cases hread : c.tryReceive? with
    | none => exact .done (.refl c)
    | some found => exact .read (.refl c) hread (ih found.2)

/-- The moments of reads tell the lanes and the records that they found. -/
theorem found?_momentsUpTo (c : Channel) (n : Nat) :
    (c.momentsUpTo n).map found? = (c.readsUpTo n).map some := by
  induction n generalizing c with
  | zero => rfl
  | succ n ih =>
    unfold momentsUpTo readsUpTo
    cases hread : c.tryReceive? with
    | none => rfl
    | some found => simp [ih, found?, hread]

/-! ### Draining -/

/-- Reading as long as records wait interleaves the lanes. -/
theorem interleaving_receiveUpTo {n : Nat} (h : c.waiting.length ≤ n) :
    Interleaving c.laneCount c.next c.waitingIn (c.receiveUpTo n).1 := by
  induction n generalizing c with
  | zero =>
    have hempty : c.waiting = [] := List.eq_nil_of_length_eq_zero (Nat.le_zero.mp h)
    exact .nil fun i _ => waitingIn_of_waiting_eq_nil hempty i
  | succ n ih =>
    unfold receiveUpTo
    cases hread : c.tryReceive? with
    | none => exact .nil fun i _ => tryReceive?_eq_none_iff_forall.mp hread i
    | some found =>
      obtain ⟨r, d⟩ := found
      obtain ⟨steps, hsteps, hturn, hpassed⟩ := exists_steps_of_tryReceive? hread
      -- One record less waits, and one read less is left.
      have hone := tally_waiting_tryReceive? (fun _ => 1) hread
      rw [tally_one, tally_one] at hone
      have hrest := ih (c := d) (by omega)
      have hlanes : d.waitingIn
          = fun i => if i = c.turn then d.waitingIn c.turn else c.waitingIn i := by
        funext i
        split
        · rename_i hi
          rw [hi]
        · rename_i hi
          exact waitingIn_of_not_turn hread (Ne.symm hi)
      have hfront := waitingIn_tryReceive? hread c.turn
      rw [if_pos rfl, List.singleton_append] at hfront
      rw [laneCount_tryReceive? hread, next_tryReceive? hread, hlanes, hturn] at hrest
      rw [hturn] at hfront
      exact .cons hsteps hpassed hfront.symm hrest

/-- Draining ends because nothing waits any more, and gives the
interleaving of the lanes. -/
theorem interleaving_drain_iff (c : Channel) (rs : List Record) :
    Interleaving c.laneCount c.next c.waitingIn rs ↔ rs = c.drain.1 := by
  have hdrain : Interleaving c.laneCount c.next c.waitingIn c.drain.1 :=
    interleaving_receiveUpTo (Nat.le_of_eq (length_waiting c))
  constructor
  · intro h
    exact h.unique hdrain
  · rintro rfl
    exact hdrain

end Channel

namespace Outlet

open Channel

/-- The channels that the successful reads of a use find. -/
def momentsBy (o : Outlet) : Use → List Channel
  | .publish _ _ => []
  | .tryReceive => if o.channel.tryReceive?.isSome then [o.channel] else []
  | .poll => if o.channel.poll.toOption.isSome then [o.channel] else []
  | .drain => o.channel.momentsUpTo o.channel.buffered
  | .close => []

/-- The channels that the successful reads of a run find, one after
another. -/
def momentsIn : Outlet → List Use → List Channel
  | _, [] => []
  | o, use :: uses => o.momentsBy use ++ momentsIn (o.after use) uses

/-- The outlet after uses. -/
def afterAll (o : Outlet) (uses : List Use) : Outlet := uses.foldl after o

/-- Each use is a run with its moments. -/
theorem reads_momentsBy (o : Outlet) (use : Use) :
    Reads o.channel (o.momentsBy use) (o.after use).channel := by
  have hone := reads_momentsUpTo o.channel 1
  rw [momentsUpTo_one, receiveUpTo_one] at hone
  cases use with
  | publish core r =>
    refine .done ?_
    show Quiet o.channel (o.publish core r).2.channel
    -- A record that is refused only moves a counter.
    rcases o.publish_cases core r with ⟨d, hd, ho⟩ | ⟨e, -, ho⟩ <;> rw [ho]
    · exact quiet_publish hd
    · exact .refl _
  | tryReceive => exact hone
  | poll =>
    unfold momentsBy after
    rw [toOption_poll]
    exact hone
  | drain => exact reads_momentsUpTo o.channel o.channel.buffered
  | close => exact .done (quiet_close o.channel)

/-- Uses one after another are a run with all their moments. -/
theorem reads_momentsIn (o : Outlet) (uses : List Use) :
    Reads o.channel (o.momentsIn uses) (o.afterAll uses).channel := by
  induction uses generalizing o with
  | nil => exact .done (.refl _)
  | cons use uses ih => exact (o.reads_momentsBy use).append (ih (o.after use))

/-- The moments of a use are those of the records that it reads. -/
theorem found?_momentsBy (o : Outlet) (use : Use) :
    (o.momentsBy use).map found? = (o.readBy use).map some := by
  have hone := found?_momentsUpTo o.channel 1
  rw [momentsUpTo_one, readsUpTo_one] at hone
  cases use with
  | publish core r => rfl
  | tryReceive => exact hone
  | poll =>
    unfold momentsBy readBy
    rw [toOption_poll]
    exact hone
  | drain => exact found?_momentsUpTo o.channel o.channel.buffered
  | close => rfl

end Outlet

namespace Journal

open Channel

/-- The moments of a run are those of the records that were read. -/
theorem read_after (j : Journal) (uses : List Outlet.Use) :
    (j.after uses).read.map some
      = j.read.map some ++ (j.outlet.momentsIn uses).map found? := by
  induction uses generalizing j with
  | nil => simp [after, Outlet.momentsIn]
  | cons use uses ih =>
    show ((j.next use).after uses).read.map some = _
    rw [ih, Outlet.momentsIn, List.map_append, Outlet.found?_momentsBy]
    simp [next]

end Journal

namespace Outlet

open Channel

/-- Any output, whatever waits in its lanes and wherever the reader
stands, and any run from there on.

The moments of the run are the channels that its successful reads find,
one for each record that is read. Such a read takes the record from the
front of the lane whose turn it is, and no other lane changes. Of as many
reads in a row as there are lanes, at least one serves a lane that waits
all the time. Between two reads of one lane that follow each other every
other lane is served that waits at every read between them, and exactly
once if the first lane waits there, too. (If there is no read between
them, the lane is to wait at the second one.) A read finds nothing if
and only if all lanes are empty. Draining goes on until that is so, and
gives the one interleaving that begins at the reader's place. This place
is the lane behind the one that was served last. -/
theorem reader_goes_round (o : Outlet) (uses : List Use) :
    let moments := o.momentsIn uses
    let lanes := o.channel.laneCount
    let c := (o.afterAll uses).channel
    moments.map found? = ((Journal.begin o).after uses).read.map some ∧
    (∀ (m : Channel) (r : Record) (d : Channel), m.tryReceive? = some (r, d) →
      ∀ i, m.waitingIn i = (if m.turn = i then [r] else []) ++ d.waitingIn i) ∧
    (∀ before window after, moments = before ++ window ++ after → window.length = lanes →
      ∀ i < lanes, (∀ m ∈ window, m.waitingIn i ≠ []) → i ∈ window.map turn) ∧
    (∀ before first between second after,
      moments = before ++ (first :: between ++ second :: after) →
      second.turn = first.turn → first.turn ∉ between.map turn →
      ∀ i, i ≠ first.turn → (∀ m ∈ between, m.waitingIn i ≠ []) →
        (between = [] → second.waitingIn i ≠ []) →
        i ∈ between.map turn ∧
        ((∀ m ∈ between, m.waitingIn first.turn ≠ []) → (between.map turn).count i = 1)) ∧
    ((c.tryReceive? = none ↔ ∀ i, c.waitingIn i = []) ∧
      (c.poll.toOption = none ↔ ∀ i, c.waitingIn i = [])) ∧
    (c.drain.2.tryReceive? = none ∧
      ∀ rs, Interleaving lanes c.next c.waitingIn rs ↔ rs = c.drain.1) ∧
    (∀ m ∈ moments.getLast?, c.next = (m.turn + 1) % lanes) := by
  intro moments lanes c
  have hrun : Reads o.channel moments c := o.reads_momentsIn uses
  have hlanes : c.laneCount = lanes := hrun.laneCount_eq
  refine ⟨?_, fun m r d hread i => (waitingIn_tryReceive? hread i).symm, ?_, ?_,
    ⟨tryReceive?_eq_none_iff_forall, ?_⟩, ⟨?_, ?_⟩, ?_⟩
  · exact ((Journal.begin o).read_after uses).symm
  · intro before window after hsplit hlength i hi hwaits
    rw [hsplit] at hrun
    exact hrun.served_in_window hlength hi hwaits
  · intro before first between second after hsplit hsame hnever i hi hwaits hnext
    rw [hsplit] at hrun
    have hserved := hrun.served_between hsame hi hwaits hnext
    refine ⟨hserved, fun hwaits' => ?_⟩
    have hmany := List.one_le_count_iff.mpr hserved
    -- The first lane waits and is not served, so no lane is served twice.
    obtain ⟨s, -, hfirst⟩ := hrun.split
    obtain ⟨d, hupto, -⟩ := hfirst.split
    have honce : (between.map turn).count i ≤ 1 := by
      cases hupto with
      | read _ _ hrest =>
        refine hrest.count_turn_le_one (Ne.symm hi) hwaits' fun m hm heq => ?_
        exact hnever (heq ▸ List.mem_map_of_mem hm)
    omega
  · rw [toOption_poll]
    exact tryReceive?_eq_none_iff_forall
  · rw [tryReceive?_eq_none_iff_forall]
    exact waitingIn_of_waiting_eq_nil (waiting_drain c)
  · rw [← hlanes]
    exact c.interleaving_drain_iff
  · exact hrun.next_eq

end Outlet

end RuleTrace
