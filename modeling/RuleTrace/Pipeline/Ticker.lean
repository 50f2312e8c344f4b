import RuleTrace.Pipeline.Basic

/-!
# `RuleTrace.Pipeline.Ticker`: flushing in time

A ticker flushes one core at regular times. Its period is the interval
in force when it starts, or one second if that is zero. At each tick
it flushes one batch, and then looks at the settings: another interval
that is not zero makes it start anew with that period. An interval of
zero is ignored, so that what is stored is flushed at the old period
while new records go straight to the output.

Time is a number of nanoseconds that only grows. Timers go by whole
milliseconds and are never early: what is due at some moment is done at
the end of the millisecond in which that moment lies (`wakeTime`).

A ticker that comes late by at most five milliseconds makes up for the
ticks that it missed. One that comes later ticks once, whatever it
missed. In both cases it goes on at the next multiple of the period
counted from where it started.

`Scheduled` is a pipeline with its tickers and the time. The tickers
start where they first read the interval and the clock
(`Scheduled.spawn`). Time passes in one jump (`Scheduled.advance`) or
while the reader waits for a record (`Scheduled.receive`).
-/

set_option autoImplicit false

namespace RuleTrace

/-- When a timer goes off that is set to a moment. -/
def wakeTime (moment : Nat) : Nat :=
  (moment + Span.millisecond - 1) / Span.millisecond * Span.millisecond

/-- A ticker of one core. -/
structure Ticker where
  core : Nat
  period : Nat
  /-- when it ticks next -/
  due : Nat
  deriving DecidableEq, Repr

namespace Ticker

/-- The period to start with, for an interval. -/
def firstPeriod (interval : UInt64) : Nat :=
  if interval = 0 then Span.second else interval.toNat

/-- A ticker that starts now. -/
def start (core period now : Nat) : Ticker := ⟨core, period, now + period⟩

/-- A ticker for each core of a pipeline that has a slot. -/
def startAll (p : Pipeline) (now : Nat) : List Ticker :=
  match p.slots with
  | none => []
  | some slots =>
    (List.range slots.coreCount).map fun core => start core (firstPeriod p.settings.interval) now

/-- How late a ticker may be and still make up for what it missed. -/
def tolerance : Nat := 5 * Span.millisecond

/-- When the ticker is due after a tick at `now`. -/
def dueAfter (t : Ticker) (now : Nat) : Nat :=
  if now ≤ t.due + tolerance then t.due + t.period
  else now + t.period - (now - t.due) % t.period

/-- The ticker after a tick at `now`, for the interval read at that
tick. -/
def afterTick (t : Ticker) (interval : UInt64) (now : Nat) : Ticker :=
  if interval ≠ 0 ∧ interval.toNat ≠ t.period then start t.core interval.toNat now
  else { t with due := t.dueAfter now }

/-- Whether the ticker ticks at `now`. -/
def isDue (t : Ticker) (now : Nat) : Bool := wakeTime t.due ≤ now

/-- One tick. -/
def tickOnce (t : Ticker) (p : Pipeline) (now : Nat) : Ticker × Pipeline :=
  let (_, p) := p.flushCore t.core
  (t.afterTick p.settings.interval now, p)

/-- Lets the ticker tick for as long as it is due. Each tick makes it
due later, so the time that it is late bounds their number. -/
def tickFor : Nat → Ticker → Pipeline → Nat → Ticker × Pipeline
  | 0, t, p, _ => (t, p)
  | fuel + 1, t, p, now =>
    if t.isDue now then
      let (t, p) := t.tickOnce p now
      tickFor fuel t p now
    else (t, p)

/-- Lets the ticker tick if it is due. -/
def tick (t : Ticker) (p : Pipeline) (now : Nat) : Ticker × Pipeline :=
  tickFor (now + 1 - t.due) t p now

/-- Lets all tickers tick that are due. -/
def tickAll : List Ticker → Pipeline → Nat → List Ticker × Pipeline
  | [], p, _ => ([], p)
  | t :: ts, p, now =>
    let (t, p) := t.tick p now
    let (ts, p) := tickAll ts p now
    (t :: ts, p)

end Ticker

/-- A pipeline with its tickers and the time. -/
structure Scheduled where
  pipeline : Pipeline
  tickers : List Ticker
  now : Nat
  /-- whether tickers were told to stop -/
  cancelled : Bool

/-- What a reader that waits for some time gets. -/
inductive Received where
  | record (r : Record)
  /-- nothing more will come -/
  | ended
  | timeout
  deriving DecidableEq, Repr

namespace Scheduled

/-- A pipeline without tickers. -/
def new (p : Pipeline) : Scheduled := ⟨p, [], 0, false⟩

/-- Starts a ticker for each core that has a slot; how many. After a
stop they end at once.

Each ticker is a task that reads the interval and the clock when it is
run for the first time. The tasks are taken to run at once, so the start
is their first poll. Where something happens between the request and that
poll, the start is to be taken at the poll. -/
def spawn (s : Scheduled) : Nat × Scheduled :=
  let started := Ticker.startAll s.pipeline s.now
  (started.length, if s.cancelled then s else { s with tickers := s.tickers ++ started })

/-- Stops all tickers. -/
def cancel (s : Scheduled) : Scheduled := { s with tickers := [], cancelled := true }

/-- Sets the time and lets the tickers tick that are due by then. -/
def jumpTo (s : Scheduled) (now : Nat) : Scheduled :=
  let (tickers, pipeline) := Ticker.tickAll s.tickers s.pipeline now
  { s with pipeline := pipeline, tickers := tickers, now := now }

/-- Lets time pass in one jump. -/
def advance (s : Scheduled) (span : Span) : Scheduled := s.jumpTo (s.now + span.nanos)

/-- When the next ticker ticks. -/
def nextTick (s : Scheduled) : Option Nat := (s.tickers.map fun t => wakeTime t.due).min?

/-- Waits for a record until `deadline`, tick after tick. A tick at the
deadline comes too late. Each step ends at a later
tick than the one before, so the time left bounds their number. -/
def receiveUntil (deadline : Nat) : Nat → Scheduled → Received × Scheduled
  | 0, s => (.timeout, { s with now := deadline })
  | fuel + 1, s =>
    match s.pipeline.poll with
    | .ready (r, p) => (.record r, { s with pipeline := p })
    | .ended => (.ended, s)
    | .pending =>
      match s.nextTick with
      | some time =>
        if time < deadline then receiveUntil deadline fuel (s.jumpTo (max s.now time))
        else (.timeout, { s with now := deadline })
      | none => (.timeout, { s with now := deadline })

/-- Waits for a record for some time. -/
def receive (s : Scheduled) (span : Span) : Received × Scheduled :=
  receiveUntil (wakeTime (s.now + span.nanos)) (span.nanos + 2) s

end Scheduled

end RuleTrace
