import RuleTrace.Proofs.Output.Journal

/-!
# `RuleTrace.Proofs.Output.Polling`: polling, and the end of the records

Two reads scan the lanes. One answers at once (`Channel.tryReceive?`),
the other can wait, so it must also tell whether waiting is of any use
(`Channel.poll`): it counts the lanes that have ended on its way. Where a
record waits somewhere the two stop at the same lane. Where none does,
polling has looked at every lane and each was empty, so what it counted
are the lanes that can receive nothing more (`pollFrom_of_waiting_eq_nil`),
and it reports the end if these are all lanes (`poll_eq_ended_iff`).

A lane that has ended stays so: nothing can be put into it, and there is
nothing to be taken out. A run consists of the uses of the outlet and of
the moment when the writers leave (`Outlet.Event`). `Channel.Over` says
that all lanes have ended, and no event undoes it (`Journal.see_of_over`).
What a run read and what still waits is what it found and what it
accepted, lane by lane (`Journal.Balanced`). At the end nothing waits, so
all of it was read.
-/

set_option autoImplicit false

namespace RuleTrace

/-! ### One lane -/

namespace Lane

/-- A lane without a record that can receive none. -/
def Over (l : Lane) : Prop := l.buffer.items = [] ∧ (l.closed = true ∨ l.abandoned = true)

instance (l : Lane) : Decidable l.Over :=
  inferInstanceAs (Decidable (l.buffer.items = [] ∧ (l.closed = true ∨ l.abandoned = true)))

/-- Polling an empty lane tells whether it is over. -/
theorem poll_of_items_eq_nil {l : Lane} (h : l.buffer.items = []) :
    l.poll = if l.Over then .ended else .pending := by
  have hfinished : l.isFinished = true ↔ l.Over := by
    simp [isFinished, Over, h]
  rw [poll, receive?_eq_none.mpr h]
  simp only [hfinished]

end Lane

namespace Channel

variable {c d : Channel}

/-! ### One scan -/

/-- Whether there is a lane of this number and it is over. -/
def overAt (c : Channel) (i : Nat) : Bool := (c.lanes[i]?).any fun l => l.Over

/-- All lanes are over. -/
def Over (c : Channel) : Prop := ∀ l ∈ c.lanes, l.Over

instance (c : Channel) : Decidable c.Over :=
  inferInstanceAs (Decidable (∀ l ∈ c.lanes, l.Over))

/-- In lanes that are over nothing waits. -/
theorem waiting_of_over (h : c.Over) : c.waiting = [] :=
  List.flatMap_eq_nil_iff.mpr fun l hl => (h l hl).1

/-- Where nothing waits a scan counts the lanes that are over. -/
theorem pollFrom_of_waiting_eq_nil (h : c.waiting = []) (order : List Nat) (ended : Nat) :
    c.pollFrom order ended
      = if ended + order.countP c.overAt = c.laneCount then .ended else .pending := by
  induction order generalizing ended with
  | nil => rfl
  | cons i order ih =>
    rw [pollFrom, List.countP_cons]
    cases hlane : c.lanes[i]? with
    | none =>
      have hnot : c.overAt i = false := by simp [overAt, hlane]
      simp [hnot, ih]
    | some l =>
      have hempty : l.buffer.items = [] :=
        List.flatMap_eq_nil_iff.mp h l (List.mem_of_getElem? hlane)
      have hover : c.overAt i = decide l.Over := by simp [overAt, hlane]
      rw [Option.map_some, Lane.poll_of_items_eq_nil hempty, hover]
      -- The lane is passed over in any case, and counted if it is over.
      by_cases hl : l.Over
      · simp only [hl, if_true, decide_true, ih]
        rw [Nat.add_right_comm, Nat.add_assoc]
      · simp only [hl, if_false, decide_false, ih]
        rfl

/-- The scan passes each lane, and as many as there are. -/
theorem countP_order_eq_laneCount_iff :
    c.order.countP c.overAt = c.laneCount ↔ c.Over := by
  have hlength : c.order.length = c.laneCount := by simp [order]
  rw [← hlength, List.countP_eq_length]
  constructor
  · -- The order has every lane in it.
    intro h l hl
    obtain ⟨i, hi⟩ := List.mem_iff_getElem?.mp hl
    have hover := h i (mem_order (List.getElem?_eq_some_iff.mp hi).1)
    simpa [overAt, hi] using hover
  · -- And it has nothing else in it.
    intro h i hi
    obtain ⟨step, hstep, rfl⟩ := List.mem_map.mp hi
    have hlt : (c.next + step) % c.laneCount < c.lanes.length :=
      Nat.mod_lt _ (Nat.lt_of_le_of_lt (Nat.zero_le _) (List.mem_range.mp hstep))
    have hover := h _ (List.getElem_mem hlt)
    simpa [overAt, List.getElem?_eq_getElem hlt] using hover

/-- Where nothing waits polling tells whether all lanes are over. -/
theorem poll_of_waiting_eq_nil (h : c.waiting = []) :
    c.poll = if c.Over then .ended else .pending := by
  rw [poll, pollFrom_of_waiting_eq_nil h, Nat.zero_add]
  simp only [countP_order_eq_laneCount_iff]

/-- A scan finds the record and leaves the lanes as the other scan
does. -/
theorem poll_eq_ready_iff {r : Record} :
    c.poll = .ready (r, d) ↔ c.tryReceive? = some (r, d) := by
  refine ⟨tryReceive?_of_poll, fun h => ?_⟩
  rw [← toOption_poll] at h
  cases hpoll : c.poll with
  | ready found =>
    rw [hpoll] at h
    exact congrArg Poll.ready (Option.some.inj h)
  | pending => simp [hpoll, Poll.toOption] at h
  | ended => simp [hpoll, Poll.toOption] at h

/-- Where polling finds no record nothing waits. -/
theorem waiting_of_toOption_poll (h : c.poll.toOption = none) : c.waiting = [] :=
  tryReceive?_eq_none_iff.mp (toOption_poll c ▸ h)

/-- The end is reported when all lanes are over. -/
theorem poll_eq_ended_iff : c.poll = .ended ↔ c.Over := by
  constructor
  · intro h
    have hempty : c.waiting = [] := waiting_of_toOption_poll (by rw [h]; rfl)
    rw [poll_of_waiting_eq_nil hempty] at h
    refine Decidable.byContradiction fun hnot => ?_
    rw [if_neg hnot] at h
    cases h
  · intro h
    rw [poll_of_waiting_eq_nil (waiting_of_over h), if_pos h]

/-- It is worth waiting when no lane has a record and some lane can
receive one. -/
theorem poll_eq_pending_iff :
    c.poll = .pending ↔
      c.tryReceive? = none ∧ ∃ l ∈ c.lanes, l.closed = false ∧ l.abandoned = false := by
  constructor
  · intro h
    have hempty : c.waiting = [] := waiting_of_toOption_poll (by rw [h]; rfl)
    refine ⟨tryReceive?_eq_none_iff.mpr hempty, ?_⟩
    have hnot : ¬ c.Over := fun hover => by simp [poll_eq_ended_iff.mpr hover] at h
    -- Some lane is not over. It is empty like all others, so it is open and has a writer.
    simp only [Over, Classical.not_forall] at hnot
    obtain ⟨l, hl, hlane⟩ := hnot
    have hitems := List.flatMap_eq_nil_iff.mp hempty l hl
    exact ⟨l, hl, by simpa [Lane.Over, hitems] using hlane⟩
  · rintro ⟨hnone, l, hl, hopen, hwritten⟩
    have hnot : ¬ c.Over := fun hover => by simpa [hopen, hwritten] using (hover l hl).2
    rw [poll_of_waiting_eq_nil (tryReceive?_eq_none_iff.mp hnone), if_neg hnot]

/-- One lane was closed and the other has no writer. A third one that is
open makes it worth waiting. -/
example :
    let closed : Lane := ⟨.empty 1, true, false⟩
    let left : Lane := ⟨.empty 1, false, true⟩
    (⟨.multiplexed, [closed, left], 1⟩ : Channel).poll = .ended ∧
      (⟨.multiplexed, [closed, left, .new 1], 1⟩ : Channel).poll = .pending := by decide

/-! ### Lanes that are over -/

/-- The writers leave what waits in the lanes. -/
theorem waitingIn_abandon (c : Channel) (i : Nat) : c.abandon.waitingIn i = c.waitingIn i := by
  rw [waitingIn, waitingIn, abandon, List.getElem?_map]
  cases c.lanes[i]? <;> rfl

/-- Lanes that are over stay so when they are closed. -/
theorem over_close (h : c.Over) : c.close.Over := by
  intro l hl
  obtain ⟨m, hm, rfl⟩ := List.mem_map.mp hl
  exact ⟨(h m hm).1, .inl rfl⟩

/-- They stay so when the writers leave. -/
theorem over_abandon (h : c.Over) : c.abandon.Over := by
  intro l hl
  obtain ⟨m, hm, rfl⟩ := List.mem_map.mp hl
  exact ⟨(h m hm).1, .inr rfl⟩

/-- Whether the lane of a core has a writer. Where there is no lane, the
writers' side answers for it. -/
def hasWriter (c : Channel) (core : Nat) : Bool :=
  (c.lanes[c.laneOf core]?).all fun l => !l.abandoned

/-- A lane that is over while it has a writer was closed. -/
theorem publish_of_over (h : c.Over) {core : Nat} (hwriter : c.hasWriter core = true)
    (r : Record) : c.publish core r = .error .closed := by
  rw [publish]
  cases hlane : c.lanes[c.laneOf core]? with
  | none => rfl
  | some l =>
    have hwritten : l.abandoned = false := by simpa [hasWriter, hlane] using hwriter
    have hclosed : l.closed = true := by
      simpa [hwritten] using (h l (List.mem_of_getElem? hlane)).2
    show (l.publish r).map _ = _
    rw [Lane.publish, if_pos hclosed]
    rfl

end Channel

/-! ### Runs in which the writers may leave -/

namespace Outlet

/-- What can happen to an outlet: it is used, or its writers leave. -/
inductive Event where
  | use (u : Use)
  | leave

/-- Whether a use is possible: a record can be published as long as there
is a writer. -/
def permits (o : Outlet) : Use → Bool
  | .publish core _ => o.channel.hasWriter core
  | _ => true

end Outlet

namespace Journal

open Channel

/-- The journal after an event. -/
def see (j : Journal) : Outlet.Event → Journal
  | .use u => if j.outlet.permits u then j.next u else j
  | .leave => { j with outlet := { j.outlet with channel := j.outlet.channel.abandon } }

/-- The journal after events. -/
def seeAll (j : Journal) (events : List Outlet.Event) : Journal := events.foldl see j

namespace Balanced

variable {start : Channel} {j : Journal}

/-- Each event keeps the balance. -/
theorem see (h : j.Balanced start) (event : Outlet.Event) : (j.see event).Balanced start := by
  cases event with
  | leave =>
    refine ⟨fun i => ?_, h.given⟩
    show ofLane i j.read ++ j.outlet.channel.abandon.waitingIn i = _
    rw [waitingIn_abandon, h.balance]
    rfl
  | use u =>
    unfold Journal.see
    dsimp only
    split
    · exact h.next u
    · exact h

/-- So do events one after another. -/
theorem seeAll (h : j.Balanced start) (events : List Outlet.Event) :
    (j.seeAll events).Balanced start := by
  induction events generalizing j with
  | nil => exact h
  | cons event events ih => exact ih (h.see event)

end Balanced

/-! ### The end of a run -/

section
variable {j : Journal}

/-- Nothing is read from lanes that are over. -/
theorem readUpTo_of_over (h : j.outlet.channel.Over) (n : Nat) : j.readUpTo n = j := by
  have hnone := receiveUpTo_of_waiting_eq_nil (waiting_of_over h) n
  have hreads : j.outlet.channel.readsUpTo n = [] := by
    rw [← List.map_eq_nil_iff, map_snd_readsUpTo, hnone]
  rw [readUpTo, hnone, hreads, List.append_nil, List.append_nil]

/-- Where all lanes are over no event changes that, and no record comes
in or goes out. -/
theorem see_of_over (h : j.outlet.channel.Over) (event : Outlet.Event) :
    (j.see event).outlet.channel.Over ∧ (j.see event).accepted = j.accepted ∧
      (j.see event).read = j.read ∧ (j.see event).delivered = j.delivered := by
  have hnothing : j.outlet.channel.Over ∧ j.accepted = j.accepted ∧ j.read = j.read ∧
    j.delivered = j.delivered := ⟨h, rfl, rfl, rfl⟩
  cases event with
  | leave => exact ⟨over_abandon h, rfl, rfl, rfl⟩
  | use u =>
    unfold see
    dsimp only
    split
    · rename_i hpermits
      cases u with
      | publish core r =>
        -- The lane is over and still has a writer, so it was closed and refuses the record.
        have he : j.outlet.publish core r = (.error .closed, j.outlet.bump .outputDropped) := by
          rw [Outlet.publish, publish_of_over h hpermits]
        have haccepted : j.outlet.acceptedBy (.publish core r) = [] := by
          rw [Outlet.acceptedBy, he]
        refine ⟨?_, ?_, List.append_nil _, List.append_nil _⟩
        · show (j.outlet.publish core r).2.channel.Over
          rw [he]
          exact h
        · show j.accepted ++ j.outlet.acceptedBy (.publish core r) = j.accepted
          rw [haccepted, List.append_nil]
      | tryReceive => rwa [next_tryReceive, readUpTo_of_over h]
      | poll => rwa [next_poll, readUpTo_of_over h]
      | drain => rwa [next_drain, readUpTo_of_over h]
      | close =>
        exact ⟨over_close h, List.append_nil _, List.append_nil _, List.append_nil _⟩
    · exact hnothing

/-- The same holds of events one after another. -/
theorem seeAll_of_over (h : j.outlet.channel.Over) (events : List Outlet.Event) :
    (j.seeAll events).outlet.channel.Over ∧ (j.seeAll events).accepted = j.accepted ∧
      (j.seeAll events).read = j.read ∧ (j.seeAll events).delivered = j.delivered := by
  induction events generalizing j with
  | nil => exact ⟨h, rfl, rfl, rfl⟩
  | cons event events ih =>
    obtain ⟨hover, haccepted, hread, hdelivered⟩ := see_of_over h event
    obtain ⟨hover', haccepted', hread', hdelivered'⟩ := ih hover
    exact ⟨hover', haccepted'.trans haccepted, hread'.trans hread, hdelivered'.trans hdelivered⟩

end

/-- Any output, whatever waits in its lanes, whichever of them are closed
or without a writer, and wherever the reader stands.

Polling gives a record exactly when a read that does not wait gives it,
the same record, and both leave the same output. Where there is none
they leave the output as it was. Then polling reports the end if and
only if each lane is empty and is closed or has no writer, and reports
that it is worth waiting if and only if some lane is open and has one.

In any run from there on in which polling reports the end, all that
waited in a lane at first and all that it accepted was read, in this
order, and given to the reader. Whatever happens afterwards, polling
reports the end again, nothing is accepted and nothing is read. -/
theorem polling_ends_when_all_is_read (o : Outlet) (events : List Outlet.Event) :
    let c := o.channel
    let j := (begin o).seeAll events
    ((∀ r d, c.poll = .ready (r, d) ↔ c.tryReceive? = some (r, d)) ∧
      o.after .poll = o.after .tryReceive ∧
      (c.tryReceive? = none → o.after .poll = o)) ∧
    (c.poll = .ended ↔
      ∀ l ∈ c.lanes, l.buffer.items = [] ∧ (l.closed = true ∨ l.abandoned = true)) ∧
    (c.poll = .pending ↔
      c.tryReceive? = none ∧ ∃ l ∈ c.lanes, l.closed = false ∧ l.abandoned = false) ∧
    (j.outlet.channel.poll = .ended →
      (∀ i, j.outlet.channel.waitingIn i = [] ∧
        ofLane i j.read = c.waitingIn i ++ ofLane i j.accepted) ∧
      j.read.map Prod.snd = j.delivered ∧
      ∀ more,
        (j.seeAll more).outlet.channel.poll = .ended ∧
        (j.seeAll more).accepted = j.accepted ∧
        (j.seeAll more).read = j.read ∧
        (j.seeAll more).delivered = j.delivered) := by
  intro c j
  have hbalanced : j.Balanced c := (balanced_begin o).seeAll events
  have hsame : o.after .poll = o.after .tryReceive := by
    rw [Outlet.after, Outlet.after, toOption_poll]
  refine ⟨⟨fun r d => poll_eq_ready_iff, hsame, fun hnone => ?_⟩, poll_eq_ended_iff,
    poll_eq_pending_iff, fun hended => ?_⟩
  · have hchannel : o.channel.tryReceive? = none := hnone
    rw [hsame, Outlet.after, hchannel]
    rfl
  · have hover : j.outlet.channel.Over := poll_eq_ended_iff.mp hended
    refine ⟨fun i => ?_, hbalanced.given, fun more => ?_⟩
    · -- Nothing waits any more, so the balance is between what was read and the rest.
      have hempty := waitingIn_of_waiting_eq_nil (waiting_of_over hover) i
      have hlane := hbalanced.balance i
      rw [hempty, List.append_nil] at hlane
      exact ⟨hempty, hlane⟩
    · obtain ⟨hover', haccepted, hread, hdelivered⟩ := seeAll_of_over hover more
      exact ⟨poll_eq_ended_iff.mpr hover', haccepted, hread, hdelivered⟩

end Journal

end RuleTrace
