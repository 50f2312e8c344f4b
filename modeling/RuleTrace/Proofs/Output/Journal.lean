import RuleTrace.Proofs.Outlet
import RuleTrace.Proofs.Output.Lanes

/-!
# `RuleTrace.Proofs.Output.Journal`: what goes into the output and comes out

A `Journal` follows an outlet through any sequence of uses: records are
published, the reader takes one or all, the reader closes the lanes. It
notes by lane which records were accepted and which were read, and what
the reader was given.

The balance of each lane is that what was read from it and what waits in
it is what waited in the beginning and what it accepted, in this order
(`Journal.Balanced`). Each use keeps it, wherever the run begins. For
runs from empty lanes the invariant `Journal.Kept` adds what the lanes
have in common. `lanes_keep_order` draws the conclusions: nothing that
was accepted is lost, given out twice or out of turn; a record is refused
exactly for the stated reasons; and after the lanes were closed and
drained the reader has got everything and gets nothing more.
-/

set_option autoImplicit false

namespace RuleTrace

namespace Outlet

/-- A use of the output. -/
inductive Use where
  | publish (core : Nat) (r : Record)
  | tryReceive
  | poll
  | drain
  | close

/-- The outlet after a use. -/
def after (o : Outlet) : Use → Outlet
  | .publish core r => (o.publish core r).2
  | .tryReceive => { o with channel := (o.channel.tryReceive?.map Prod.snd).getD o.channel }
  | .poll => { o with channel := (o.channel.poll.toOption.map Prod.snd).getD o.channel }
  | .drain => { o with channel := o.channel.drain.2 }
  | .close => { o with channel := o.channel.close }

/-- The record that a use brings in, if it is accepted, with its lane. -/
def acceptedBy (o : Outlet) : Use → List (Nat × Record)
  | .publish core r =>
    match (o.publish core r).1 with
    | .ok () => [(o.channel.laneOf core, r)]
    | .error _ => []
  | _ => []

/-- The records that the reader is given by a use. -/
def deliveredBy (o : Outlet) : Use → List Record
  | .tryReceive => (o.channel.tryReceive?.map Prod.fst).toList
  | .poll => (o.channel.poll.toOption.map Prod.fst).toList
  | .drain => o.channel.drain.1
  | _ => []

/-- The records that a use reads, each with the lane that it comes
from. -/
def readBy (o : Outlet) : Use → List (Nat × Record)
  | .tryReceive => (o.channel.tryReceive?.map fun x => (o.channel.turn, x.1)).toList
  | .poll => (o.channel.poll.toOption.map fun x => (o.channel.turn, x.1)).toList
  | .drain => o.channel.readsUpTo o.channel.buffered
  | _ => []

end Outlet

/-- An outlet with what was seen of it. -/
structure Journal where
  outlet : Outlet
  /-- the records that were accepted, with their lanes -/
  accepted : List (Nat × Record)
  /-- the records that were read, with their lanes -/
  read : List (Nat × Record)
  /-- what the reader was given -/
  delivered : List Record

namespace Journal

open Channel

/-- A journal in which nothing was seen so far. -/
def begin (o : Outlet) : Journal := ⟨o, [], [], []⟩

/-- The journal after a use. -/
def next (j : Journal) (use : Outlet.Use) : Journal where
  outlet := j.outlet.after use
  accepted := j.accepted ++ j.outlet.acceptedBy use
  read := j.read ++ j.outlet.readBy use
  delivered := j.delivered ++ j.outlet.deliveredBy use

/-- The journal after uses. -/
def after (j : Journal) (uses : List Outlet.Use) : Journal := uses.foldl next j

/-- The journal after up to `n` records were read. -/
def readUpTo (j : Journal) (n : Nat) : Journal where
  outlet := { j.outlet with channel := (j.outlet.channel.receiveUpTo n).2 }
  accepted := j.accepted
  read := j.read ++ j.outlet.channel.readsUpTo n
  delivered := j.delivered ++ (j.outlet.channel.receiveUpTo n).1

/-- Reading without waiting is reading one record. -/
theorem next_tryReceive (j : Journal) : j.next .tryReceive = j.readUpTo 1 := by
  have haccepted : j.accepted ++ j.outlet.acceptedBy .tryReceive = j.accepted :=
    List.append_nil _
  rw [readUpTo, readsUpTo_one, receiveUpTo_one, next, haccepted]
  rfl

/-- Polling reads as a reader does that does not wait. -/
theorem next_poll (j : Journal) : j.next .poll = j.readUpTo 1 := by
  rw [← next_tryReceive, next, next, Outlet.after, Outlet.after, Outlet.readBy, Outlet.readBy,
    Outlet.deliveredBy, Outlet.deliveredBy, toOption_poll]
  rfl

/-- Taking out all is reading as many as wait. -/
theorem next_drain (j : Journal) : j.next .drain = j.readUpTo j.outlet.channel.buffered := by
  have haccepted : j.accepted ++ j.outlet.acceptedBy .drain = j.accepted := List.append_nil _
  rw [next, haccepted]
  rfl

/-- Lane by lane, what was read and what waits is what waited in the
beginning and what was accepted; and the reader was given what was
read. -/
structure Balanced (start : Channel) (j : Journal) : Prop where
  balance : ∀ i, ofLane i j.read ++ j.outlet.channel.waitingIn i
    = start.waitingIn i ++ ofLane i j.accepted
  given : j.read.map Prod.snd = j.delivered

namespace Balanced

variable {start : Channel} {j : Journal}

/-- Reading keeps the balance. -/
theorem readUpTo (h : j.Balanced start) (n : Nat) : (j.readUpTo n).Balanced start where
  balance i := by
    show ofLane i (j.read ++ j.outlet.channel.readsUpTo n)
      ++ (j.outlet.channel.receiveUpTo n).2.waitingIn i = _
    rw [ofLane_append, List.append_assoc, waitingIn_receiveUpTo, h.balance]
    rfl
  given := by
    show (j.read ++ j.outlet.channel.readsUpTo n).map Prod.snd = _
    rw [List.map_append, h.given, map_snd_readsUpTo]
    rfl

/-- Publishing keeps the balance, whether the record is accepted or not. -/
theorem publish (h : j.Balanced start) (core : Nat) (r : Record) :
    (j.next (.publish core r)).Balanced start := by
  have hread : j.read ++ j.outlet.readBy (.publish core r) = j.read := List.append_nil _
  have hgiven : j.delivered ++ j.outlet.deliveredBy (.publish core r) = j.delivered :=
    List.append_nil _
  rw [Journal.next, hread, hgiven, Outlet.after, Outlet.acceptedBy]
  rcases j.outlet.publish_cases core r with ⟨d, hd, he⟩ | ⟨e, -, he⟩ <;> rw [he]
  · -- The record goes behind what waits in its lane, and behind what the lane accepted.
    refine ⟨fun i => ?_, h.given⟩
    show ofLane i j.read ++ d.waitingIn i
      = start.waitingIn i ++ ofLane i (j.accepted ++ [(j.outlet.channel.laneOf core, r)])
    rw [waitingIn_publish hd, ofLane_append, ofLane_cons, ofLane_nil, List.append_nil,
      ← List.append_assoc, ← List.append_assoc, h.balance]
  · dsimp only
    rw [List.append_nil]
    exact ⟨h.balance, h.given⟩

/-- Closing keeps the balance. -/
theorem close (h : j.Balanced start) : (j.next .close).Balanced start where
  balance i := by
    show ofLane i (j.read ++ []) ++ j.outlet.channel.close.waitingIn i
      = start.waitingIn i ++ ofLane i (j.accepted ++ [])
    rw [List.append_nil, List.append_nil, waitingIn_close, h.balance]
  given := by
    show (j.read ++ []).map Prod.snd = j.delivered ++ []
    rw [List.append_nil, List.append_nil, h.given]

/-- So does each use. -/
theorem next (h : j.Balanced start) (use : Outlet.Use) : (j.next use).Balanced start := by
  cases use with
  | publish core r => exact h.publish core r
  | tryReceive => exact next_tryReceive j ▸ h.readUpTo 1
  | poll => exact next_poll j ▸ h.readUpTo 1
  | drain => exact next_drain j ▸ h.readUpTo _
  | close => exact h.close

end Balanced

/-- In the beginning nothing was read and nothing accepted. -/
theorem balanced_begin (o : Outlet) : (begin o).Balanced o.channel where
  balance _ := (List.append_nil _).symm
  given := rfl

/-- The account of each lane is balanced: what was read and what waits is
what was accepted. -/
structure Kept (mode : OutputMode) (cores capacity : Nat) (closed : Prop) (j : Journal) : Prop where
  regular : j.outlet.channel.Regular mode cores capacity closed
  balance : ∀ i, ofLane i j.read ++ j.outlet.channel.waitingIn i = ofLane i j.accepted
  given : j.read.map Prod.snd = j.delivered
  accepted_lt : ∀ x ∈ j.accepted, x.1 < laneCountFor mode cores
  read_lt : ∀ x ∈ j.read, x.1 < laneCountFor mode cores

section
variable {mode : OutputMode} {cores capacity : Nat} {closed : Prop} {j : Journal}

/-- New lanes are as they should be, and nothing was seen of them. -/
theorem kept_begin (counters : Counters) :
    (begin ⟨Channel.new mode cores capacity, counters⟩).Kept mode cores capacity False where
  regular := regular_new ..
  balance i := waitingIn_new ..
  given := rfl
  accepted_lt x hx := by cases hx
  read_lt x hx := by cases hx

namespace Kept

variable (h : j.Kept mode cores capacity closed)
include h

/-- Nothing waited in the beginning. -/
theorem balanced : j.Balanced ⟨mode, [], 0⟩ := ⟨h.balance, h.given⟩

/-- Publishing answers by the state of the lane. Where it fails, the
failure is counted and nothing else happens. -/
theorem publish_cases (core : Nat) (r : Record) :
    (closed ∧ j.outlet.publish core r = (.error .closed, j.outlet.bump .outputDropped)) ∨
    (¬ closed ∧
      (j.outlet.channel.waitingIn (j.outlet.channel.laneOf core)).length = max capacity 1 ∧
      j.outlet.publish core r = (.error .full, j.outlet.bump .outputDropped)) ∨
    (¬ closed ∧
      (j.outlet.channel.waitingIn (j.outlet.channel.laneOf core)).length < max capacity 1 ∧
      ∃ d, j.outlet.publish core r = (.ok (), { j.outlet with channel := d }) ∧
        d.Regular mode cores capacity closed ∧
        ∀ i, d.waitingIn i = j.outlet.channel.waitingIn i
          ++ if j.outlet.channel.laneOf core = i then [r] else []) := by
  rw [Outlet.publish]
  rcases h.regular.publish_cases core r with
    ⟨hclosed, he⟩ | ⟨hopen, hfull, he⟩ | ⟨hopen, hroom, d, he, hd, hwaiting⟩ <;> rw [he]
  · exact .inl ⟨hclosed, rfl⟩
  · exact .inr (.inl ⟨hopen, hfull, rfl⟩)
  · exact .inr (.inr ⟨hopen, hroom, d, rfl, hd, hwaiting⟩)

/-- Publishing keeps the account. -/
theorem publish (core : Nat) (r : Record) :
    (j.next (.publish core r)).Kept mode cores capacity closed := by
  have hbalanced := h.balanced.publish core r
  have hread : j.read ++ j.outlet.readBy (.publish core r) = j.read := List.append_nil _
  have hread_lt : ∀ x ∈ (j.next (.publish core r)).read, x.1 < laneCountFor mode cores := by
    rw [Journal.next, hread]
    exact h.read_lt
  -- A record that is refused leaves the lanes and the notes as they were.
  have hrefused : ∀ e, j.outlet.publish core r = (.error e, j.outlet.bump .outputDropped) →
      (j.next (.publish core r)).Kept mode cores capacity closed := by
    intro e he
    refine ⟨?_, hbalanced.balance, hbalanced.given, ?_, hread_lt⟩
    · show (j.outlet.publish core r).2.channel.Regular mode cores capacity closed
      rw [he]
      exact h.regular
    · rw [Journal.next, Outlet.acceptedBy, he, List.append_nil]
      exact h.accepted_lt
  rcases h.publish_cases core r with ⟨-, he⟩ | ⟨-, -, he⟩ | ⟨-, -, d, he, hd, -⟩
  · exact hrefused _ he
  · exact hrefused _ he
  · refine ⟨?_, hbalanced.balance, hbalanced.given, ?_, hread_lt⟩
    · show (j.outlet.publish core r).2.channel.Regular mode cores capacity closed
      rw [he]
      exact hd
    · rw [Journal.next, Outlet.acceptedBy, he]
      intro x hx
      rcases List.mem_append.mp hx with hx | hx
      · exact h.accepted_lt x hx
      · rw [List.mem_singleton.mp hx, ← h.regular.laneCount_eq]
        exact h.regular.laneOf_lt core

/-- Reading keeps the account. -/
theorem readUpTo (n : Nat) : (j.readUpTo n).Kept mode cores capacity closed where
  regular := h.regular.receiveUpTo n
  balance := (h.balanced.readUpTo n).balance
  given := (h.balanced.readUpTo n).given
  accepted_lt := h.accepted_lt
  read_lt x hx := by
    rcases List.mem_append.mp hx with hx | hx
    · exact h.read_lt x hx
    · exact h.regular.readsUpTo_lt n x hx

/-- Closing keeps the account, and from then on the lanes are closed. -/
theorem close : (j.next .close).Kept mode cores capacity True := by
  have haccepted : j.accepted ++ j.outlet.acceptedBy .close = j.accepted := List.append_nil _
  have hread : j.read ++ j.outlet.readBy .close = j.read := List.append_nil _
  refine ⟨h.regular.close, h.balanced.close.balance, h.balanced.close.given, ?_, ?_⟩
  · rw [Journal.next, haccepted]
    exact h.accepted_lt
  · rw [Journal.next, hread]
    exact h.read_lt

/-- Each use keeps the accounts balanced. -/
theorem next (use : Outlet.Use) :
    (j.next use).Kept mode cores capacity (closed ∨ use = .close) := by
  cases use with
  | publish core r => simpa using h.publish core r
  | tryReceive => simpa [next_tryReceive] using h.readUpTo 1
  | poll => simpa [next_poll] using h.readUpTo 1
  | drain => simpa [next_drain] using h.readUpTo _
  | close => simpa using h.close

/-- Any uses keep them balanced. -/
theorem after (uses : List Outlet.Use) :
    (j.after uses).Kept mode cores capacity (closed ∨ .close ∈ uses) := by
  induction uses generalizing j closed with
  | nil =>
    show j.Kept mode cores capacity (closed ∨ Outlet.Use.close ∈ [])
    simpa using h
  | cons use uses ih =>
    have hrest := ih (h.next use)
    show ((j.next use).after uses).Kept mode cores capacity
      (closed ∨ Outlet.Use.close ∈ use :: uses)
    simpa [or_assoc, eq_comm] using hrest

/-- From closed lanes in which nothing waits nothing comes any more. -/
theorem delivered_after (hclosed : closed) (hwaiting : j.outlet.channel.waiting = [])
    (uses : List Outlet.Use) : (j.after uses).delivered = j.delivered := by
  induction uses generalizing j closed with
  | nil => rfl
  | cons use uses ih =>
    -- No use puts anything into the lanes or takes anything out of them.
    have hreading : ∀ n, (j.readUpTo n).outlet.channel.waiting = []
        ∧ (j.readUpTo n).delivered = j.delivered := by
      intro n
      have hnone := receiveUpTo_of_waiting_eq_nil hwaiting n
      refine ⟨?_, ?_⟩
      · show (j.outlet.channel.receiveUpTo n).2.waiting = []
        rw [hnone, hwaiting]
      · show j.delivered ++ (j.outlet.channel.receiveUpTo n).1 = _
        rw [hnone, List.append_nil]
    have hstep : (j.next use).outlet.channel.waiting = []
        ∧ (j.next use).delivered = j.delivered := by
      cases use with
      | publish core r =>
        rcases h.publish_cases core r with ⟨-, he⟩ | ⟨hopen, -⟩ | ⟨hopen, -⟩
        · refine ⟨?_, List.append_nil _⟩
          show (j.outlet.publish core r).2.channel.waiting = []
          rw [he]
          exact hwaiting
        · exact absurd hclosed hopen
        · exact absurd hclosed hopen
      | tryReceive => exact next_tryReceive j ▸ hreading 1
      | poll => exact next_poll j ▸ hreading 1
      | drain => exact next_drain j ▸ hreading _
      | close => exact ⟨(waiting_close _).trans hwaiting, List.append_nil _⟩
    exact (ih (h.next use) (.inl hclosed) hstep.1).trans hstep.2

/-- Why a record is refused, and that a refusal is counted once and
changes nothing else. -/
theorem refused_iff (core : Nat) (r : Record) :
    ((j.outlet.publish core r).1 = .error .closed ↔ closed) ∧
    ((j.outlet.publish core r).1 = .error .full ↔
      ¬ closed ∧
      (j.outlet.channel.waitingIn (j.outlet.channel.laneOf core)).length = max capacity 1) ∧
    ((j.outlet.publish core r).1 ≠ .ok () →
      (j.outlet.publish core r).2.channel = j.outlet.channel ∧
      ∀ k, (j.outlet.publish core r).2.counters.get k
        = if k = .outputDropped then j.outlet.counters.get k + 1
          else j.outlet.counters.get k) := by
  -- A refusal counts one record as dropped and nothing else.
  have hbump : ∀ k, (j.outlet.bump .outputDropped).counters.get k
      = if k = .outputDropped then j.outlet.counters.get k + 1 else j.outlet.counters.get k := by
    intro k
    rw [Outlet.bump, Counters.get_bump]
    by_cases hk : k = .outputDropped
    · rw [if_pos hk.symm, if_pos hk]
    · rw [if_neg (Ne.symm hk), if_neg hk]
  rcases h.publish_cases core r with
    ⟨hclosed, he⟩ | ⟨hopen, hfull, he⟩ | ⟨hopen, hroom, d, he, -⟩ <;> rw [he]
  · exact ⟨by simp [hclosed], by simp [hclosed], fun _ => ⟨rfl, hbump⟩⟩
  · exact ⟨by simp [hopen], by simpa [hopen] using hfull, fun _ => ⟨rfl, hbump⟩⟩
  · exact ⟨by simp [hopen], by simpa [hopen] using Nat.ne_of_lt hroom, fun hne => absurd rfl hne⟩

/-- Closing the lanes and draining them gives out what waited in each,
and after that nothing more comes. -/
theorem drained :
    (∀ i, ofLane i (j.outlet.channel.close.readsUpTo j.outlet.channel.close.buffered)
      = j.outlet.channel.waitingIn i) ∧
    ∀ more, (j.after (.close :: .drain :: more)).delivered
      = j.delivered ++ j.outlet.channel.close.drain.1 := by
  have hempty := waiting_drain j.outlet.channel.close
  refine ⟨fun i => ?_, fun more => ?_⟩
  · -- What waited is what was read and what is left, and nothing is left.
    have hlaw := waitingIn_receiveUpTo j.outlet.channel.close j.outlet.channel.close.buffered i
    have hnone : j.outlet.channel.close.drain.2.waitingIn i = [] :=
      waitingIn_of_waiting_eq_nil hempty i
    rw [waitingIn_close, ← drain, hnone, List.append_nil] at hlaw
    exact hlaw
  · have hnext : j.after (.close :: .drain :: more)
        = ((j.next .close).readUpTo j.outlet.channel.close.buffered).after more := by
      show ((j.next .close).next .drain).after more = _
      rw [next_drain]
      rfl
    have hkept := h.close.readUpTo j.outlet.channel.close.buffered
    rw [hnext, hkept.delivered_after trivial hempty]
    show (j.delivered ++ []) ++ _ = _
    rw [List.append_nil]
    rfl

end Kept

end

/-- Any uses of an output from its start on, in any mode, for any number
of cores and any capacity.

Each core writes to one lane. What was read from a lane and what still
waits in it are the records that the lane accepted, in this order, and
the reader was given what was read. At most the capacity waits. A record
is refused as too late exactly after the lanes were closed, and before
that as too much exactly where its lane is full; a refusal is counted
once and changes nothing else. In direct mode the reader gets the
records in the order in which they were published. When the lanes are
closed and then drained, the reader is given, lane by lane, just what
was waiting, and whatever is done afterwards it is given nothing
more. -/
theorem lanes_keep_order (mode : OutputMode) (cores capacity : Nat) (counters : Counters)
    (uses : List Outlet.Use) :
    let start := begin ⟨.new mode cores capacity, counters⟩
    let j := start.after uses
    let o := j.outlet
    (∀ core,
      (mode = .direct → o.channel.laneOf core = 0) ∧
      (mode = .multiplexed → o.channel.laneOf core = core % max cores 1)) ∧
    j.read.map Prod.snd = j.delivered ∧
    (∀ i, ofLane i j.read ++ o.channel.waitingIn i = ofLane i j.accepted) ∧
    (∀ i, (o.channel.waitingIn i).length ≤ max capacity 1) ∧
    (∀ core r,
      ((o.publish core r).1 = .error .closed ↔ .close ∈ uses) ∧
      ((o.publish core r).1 = .error .full ↔
        .close ∉ uses ∧ (o.channel.waitingIn (o.channel.laneOf core)).length = max capacity 1) ∧
      ((o.publish core r).1 ≠ .ok () →
        (o.publish core r).2.channel = o.channel ∧
        ∀ k, (o.publish core r).2.counters.get k
          = if k = .outputDropped then o.counters.get k + 1 else o.counters.get k)) ∧
    (mode = .direct → j.delivered ++ o.channel.waitingIn 0 = j.accepted.map Prod.snd) ∧
    (∃ drained : List (Nat × Record),
      drained.map Prod.snd = o.channel.close.drain.1 ∧
      (∀ i, ofLane i drained = o.channel.waitingIn i) ∧
      ∀ more, (start.after (uses ++ .close :: .drain :: more)).delivered
        = j.delivered ++ o.channel.close.drain.1) := by
  intro start j o
  have hstart : start.Kept mode cores capacity False := kept_begin counters
  have h : j.Kept mode cores capacity (.close ∈ uses) := by simpa using hstart.after uses
  obtain ⟨hdrained, hlast⟩ := h.drained
  refine ⟨fun core => ⟨fun hdirect => ?_, fun hmultiplexed => ?_⟩, h.given, h.balance,
    h.regular.length_waitingIn_le, h.refused_iff, fun hdirect => ?_,
    o.channel.close.readsUpTo o.channel.close.buffered, map_snd_readsUpTo .., hdrained,
    fun more => ?_⟩
  · rw [h.regular.laneOf_eq, hdirect]
    exact Nat.mod_one core
  · rw [h.regular.laneOf_eq, hmultiplexed]
    rfl
  · -- There is one lane, so its account is that of all records.
    subst hdirect
    rw [← h.given, ← ofLane_zero h.read_lt, ← ofLane_zero h.accepted_lt]
    exact h.balance 0
  · have hsplit : start.after (uses ++ .close :: .drain :: more)
        = j.after (.close :: .drain :: more) := List.foldl_append
    rw [hsplit]
    exact hlast more

end Journal

end RuleTrace
