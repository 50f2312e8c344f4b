import RuleTrace.Agent.Action

/-!
# `RuleTrace.Agent.Clock`: an agent and the passing of time

`Agent.proceed` reads a recording up to its next pause. Its file is
read in blocks, and while a block is read the printer takes what waits
for it. `Agent.elapse` moves the clock: it does what falls due up to a
time and then proceeds. Whoever waits for the end of a recording
(`Agent.wait`) lets the clock go from alarm to alarm until nothing of
the recording is left.

On which processor an item is read, `current` tells, by the number of
items that are left.
-/

set_option autoImplicit false

namespace RuleTrace.Agent

variable {ν : Type}

/-- Changes the timetable. -/
def withTimetable (g : Agent ν) (f : Timetable → Timetable) : Agent ν :=
  g.withParts fun p => { p with timetable := f p.timetable }

/-- The time of the agent. -/
def now (g : Agent ν) : Nat := (g.parts.map fun p => p.timetable.now).getD 0

/-- Whether the recording makes a pause after an item. -/
def pausesAfter (g : Agent ν) : Replay.Item → Bool
  | .event _ => !g.config.pace.isZero
  | _ => false

/-- The number of items that were not given yet. -/
def itemsLeft (g : Agent ν) : Nat :=
  ((g.parts.bind Parts.source).map fun s => s.left.length).getD 0

section
variable (a : Arithmetic ν) (stamp : UInt64 → String) (current : Nat → Nat)

/-- Delivers the items of the blocks that were read, up to the next
pause, so many at most. -/
def readItems : Nat → Agent ν → Agent ν
  | 0, g => g
  | n + 1, g =>
    match (g.parts.bind Parts.source).bind Source.next? with
    | none => g
    | some item =>
      let pauses := g.pausesAfter item
      let g := g.perform a stamp (.deliver (.ofNat g.now) (current g.itemsLeft))
      if pauses then g.withTimetable fun t => t.setAfter g.config.pace.nanos .readOn
      else readItems n g

/-- Goes on with the recording up to its next pause, or until it needs
another block. -/
def readOn (g : Agent ν) : Agent ν :=
  g.readItems a stamp current g.itemsLeft

/-- Whether the recording makes a pause. -/
def isReading (g : Agent ν) : Bool := g.parts.any fun p => p.timetable.isReading

/-- Whether the recording needs another block to go on. -/
def needsBlock (g : Agent ν) : Bool := !g.isReading && g.itemsLeft != 0

/-- Reads block after block up to the next pause of the recording, in
so many rounds at most. While a block is read the printer has its
turn. -/
def readBlocks : Nat → Agent ν → Agent ν
  | 0, g => g
  | n + 1, g =>
    let g := g.printWaiting a stamp
    if g.needsBlock then
      readBlocks n
        ((g.withParts fun p => { p with source := p.source.map Source.fetch }).readOn
          a stamp current)
    else g

/-- Lets the printer and the recording go on as far as they can before
time passes. Each round gives an item, and in the last one the printer
has its turn. -/
def proceed (g : Agent ν) : Agent ν :=
  g.readBlocks a stamp current (g.itemsLeft + 1)

/-- Does its duty, and sets the alarm for the next time. -/
def fulfil (g : Agent ν) : Duty → Agent ν
  | .flushCore ticker =>
    match g.parts with
    | none => g
    | some p =>
      let (ticker, pipeline) := ticker.tick p.pipeline p.timetable.now
      { g with parts := some { p with
        pipeline := pipeline
        timetable := p.timetable.set ticker.due (.flushCore ticker) } }
  | .flushOutput =>
    (g.perform a stamp .flushOutput).withTimetable fun t => t.setAfter Span.second .flushOutput
  | .report =>
    (g.perform a stamp .report).withTimetable fun t =>
      t.setAfter g.config.statsInterval.nanos .report
  | .readOn => g.readOn a stamp current

/-- Does what is due now, in so many rounds at most. -/
def fulfilDue : Nat → Agent ν → Agent ν
  | 0, g => g
  | n + 1, g =>
    match g.parts.bind fun p => p.timetable.next? with
    | none => g
    | some (alarm, later) =>
      if alarm.time ≤ g.now then
        fulfilDue n ((g.withTimetable fun _ => later).fulfil a stamp current alarm.duty)
      else g

/-- Moves the clock to a time. An alarm that goes off is set to a later
time at the earliest, so there are as many rounds as alarms. -/
def elapse (time : Nat) (g : Agent ν) : Agent ν :=
  let g := g.withTimetable fun t => { t with now := max t.now time }
  let alarms := (g.parts.map fun p => p.timetable.alarms.length).getD 0
  (g.fulfilDue a stamp current alarms).proceed a stamp current

/-- The time of the next alarm. -/
def nextTime? (g : Agent ν) : Option Nat :=
  g.parts.bind fun p => p.timetable.next?.map fun (alarm, _) => alarm.time

/-- Moves the clock from alarm to alarm while the recording lasts, in
so many rounds at most. -/
def readToEnd : Nat → Agent ν → Agent ν
  | 0, g => g
  | n + 1, g =>
    if g.isReading then
      match g.nextTime? with
      | none => g
      | some time => readToEnd n (g.elapse a stamp current time)
    else g

/-- The milliseconds that the recording lasts at most, each of which
may be a round. -/
def longest (g : Agent ν) : Nat := g.itemsLeft * (wakeTime g.config.pace.nanos / Span.millisecond)

/-- Waits for the end of the recording, if there is one that nobody
waited for. -/
def wait (g : Agent ν) :
    Option Replay.Summary × Agent ν :=
  match g.parts.bind Parts.source with
  | none => (none, g)
  | some _ =>
    let g := (g.proceed a stamp current).readToEnd a stamp current g.longest
    ((g.parts.bind Parts.source).map Source.summary, g.withParts fun p => { p with source := none })

end

end RuleTrace.Agent
