import RuleTrace.Output.Lane
import RuleTrace.Text.Numeral

/-!
# `RuleTrace.Output.Channel`: from the cores to the reader

In direct mode all cores write to one lane. In multiplexed mode each
core has a lane, chosen by its number modulo the number of lanes, and
the reader goes round the lanes, starting after the one it served
last. Order is kept within a lane only.

A reader that does not wait (`Channel.tryReceive?`) and one that could
(`Channel.poll`) each scan the lanes once.
-/

set_option autoImplicit false

namespace RuleTrace

/-- How records travel to the reader. -/
inductive OutputMode where
  | direct
  | multiplexed
  deriving DecidableEq, Repr

namespace OutputMode

def name : OutputMode → String
  | direct => "direct"
  | multiplexed => "multiplexed"

/-- The name in diagnostics. -/
def debugName : OutputMode → String
  | direct => "Direct"
  | multiplexed => "Multiplexed"

end OutputMode

/-- Lanes and the reader's place among them. -/
structure Channel where
  mode : OutputMode
  lanes : List Lane
  /-- the lane at which the next read starts -/
  next : Nat
  deriving DecidableEq, Repr

namespace Channel

/-- The number of lanes for a mode. -/
def laneCountFor (mode : OutputMode) (cores : Nat) : Nat :=
  match mode with
  | .direct => 1
  | .multiplexed => max cores 1

/-- Open lanes without records. -/
def new (mode : OutputMode) (cores capacity : Nat) : Channel :=
  ⟨mode, List.replicate (laneCountFor mode cores) (.new capacity), 0⟩

def laneCount (c : Channel) : Nat := c.lanes.length

/-- The lane that a core writes to. -/
def laneOf (c : Channel) (core : Nat) : Nat :=
  match c.mode with
  | .direct => 0
  | .multiplexed => core % max c.laneCount 1

/-- Accepts a record from a core if its lane does. -/
def publish (c : Channel) (core : Nat) (r : Record) : Except PublishError Channel :=
  match c.lanes[c.laneOf core]? with
  | none => .error .closed
  | some lane => (lane.publish r).map fun lane =>
    { c with lanes := c.lanes.set (c.laneOf core) lane }

/-- The numbers of the lanes in the order of the next read. -/
def order (c : Channel) : List Nat :=
  (List.range c.laneCount).map fun step => (c.next + step) % c.laneCount

/-- The channel after a record was read from lane `i`, which leaves
`lane`. -/
def served (c : Channel) (i : Nat) (lane : Lane) : Channel :=
  { c with lanes := c.lanes.set i lane, next := (i + 1) % c.laneCount }

/-- The first record in the order of reading, without waiting. -/
def tryReceive? (c : Channel) : Option (Record × Channel) :=
  c.order.findSome? fun i =>
    ((c.lanes[i]?).bind Lane.receive?).map fun (r, lane) => (r, c.served i lane)

/-- Polls the lanes in the given order; `ended` counts those that have
ended. -/
def pollFrom (c : Channel) : List Nat → Nat → Poll (Record × Channel)
  | [], ended => if ended = c.laneCount then .ended else .pending
  | i :: rest, ended =>
    match c.lanes[i]?.map Lane.poll with
    | some (.ready (r, lane)) => .ready (r, c.served i lane)
    | some .ended => c.pollFrom rest (ended + 1)
    | some .pending => c.pollFrom rest ended
    | none => c.pollFrom rest ended

/-- What a reader that could wait finds. -/
def poll (c : Channel) : Poll (Record × Channel) := c.pollFrom c.order 0

/-- Closes all lanes. -/
def close (c : Channel) : Channel :=
  { c with lanes := c.lanes.map fun l => { l with closed := true } }

/-- The channel after the last writer went. -/
def abandon (c : Channel) : Channel :=
  { c with lanes := c.lanes.map fun l => { l with abandoned := true } }

/-- The number of records that wait in all lanes. -/
def buffered (c : Channel) : Nat := c.lanes.foldr (fun l n => l.buffer.size + n) 0

/-- Reads up to `n` records without waiting. -/
def receiveUpTo (c : Channel) : Nat → List Record × Channel
  | 0 => ([], c)
  | n + 1 =>
    match c.tryReceive? with
    | none => ([], c)
    | some (r, c) =>
      let (rs, c) := c.receiveUpTo n
      (r :: rs, c)

/-- Reads all records that wait. -/
def drain (c : Channel) : List Record × Channel := c.receiveUpTo c.buffered

/-- The diagnostic text of the writers' side. -/
def debugText (c : Channel) : String :=
  "OutputChannel \x7b mode: " ++ c.mode.debugName ++ ", lanes: "
    ++ String.ofList (Text.decimal c.laneCount) ++ " \x7d"

end Channel

end RuleTrace
