import RuleTrace.Pipeline.Ticker

/-!
# `RuleTrace.Agent.Timetable`: what an agent does by the clock

While an agent runs, the ticker of each core flushes that core, the
printer flushes its output every second, the growth of the counters is
exported, and a recording with a pause between its events goes on. A
timetable holds the time and an alarm for each of these duties.

Alarms go off in the order of their times, and those of one time in
the order in which they were set. So between two duties that fall
together the one with the longer pause comes first.
-/

set_option autoImplicit false

namespace RuleTrace

/-- What an alarm calls for. -/
inductive Duty where
  /-- a ticker flushes its core -/
  | flushCore (ticker : Ticker)
  /-- the printer flushes its output -/
  | flushOutput
  /-- the growth of the counters is exported -/
  | report
  /-- the recording goes on -/
  | readOn
  deriving DecidableEq, Repr

/-- A duty and when it falls due. -/
structure Alarm where
  time : Nat
  duty : Duty
  deriving DecidableEq, Repr

/-- The time, and the alarms in the order in which they go off. -/
structure Timetable where
  now : Nat
  alarms : List Alarm
  deriving DecidableEq, Repr

namespace Timetable

/-- A timetable without alarms. -/
def empty (now : Nat) : Timetable := ⟨now, []⟩

/-- Puts an alarm behind all that do not go off later. -/
def insert (x : Alarm) : List Alarm → List Alarm
  | [] => [x]
  | y :: ys => if y.time ≤ x.time then y :: insert x ys else x :: y :: ys

/-- Sets an alarm to a moment. -/
def set (t : Timetable) (moment : Nat) (duty : Duty) : Timetable :=
  { t with alarms := insert ⟨wakeTime moment, duty⟩ t.alarms }

/-- Sets an alarm to a moment from now. -/
def setAfter (t : Timetable) (pause : Nat) (duty : Duty) : Timetable := t.set (t.now + pause) duty

/-- The next alarm, and the timetable without it. -/
def next? (t : Timetable) : Option (Alarm × Timetable) :=
  match t.alarms with
  | [] => none
  | alarm :: later => some (alarm, { t with alarms := later })

/-- Whether an alarm is set for the recording. -/
def isReading (t : Timetable) : Bool := t.alarms.any fun x => x.duty = .readOn

end Timetable

end RuleTrace
