import RuleTrace.Agent.Timetable
import RuleTrace.Metrics.Basic
import RuleTrace.Output.Printer
import RuleTrace.Replay

/-!
# `RuleTrace.Agent.Basic`: the parts of an agent

An agent joins a recording, a pipeline, the printer that takes records
from it, and the metrics. `Agent.start` puts the parts together, for
surroundings that say what the agent finds: the cores, the files, the
addresses. `Agent.reload` changes the settings of a running agent.

An agent that was stopped can be started again, but its parts come to
rest at once: nothing is delivered and the output is closed.
-/

set_option autoImplicit false

namespace RuleTrace

/-- What an agent finds when it starts. -/
structure Surroundings where
  /-- the time on a clock that only goes forward, in nanoseconds -/
  time : Nat
  /-- the number of cores -/
  cores : Nat
  /-- whether metrics can be served at an address -/
  canListen : String → Bool
  /-- whether lines can go to a file, or to standard output -/
  canWrite : Option String → Bool
  /-- the contents of a file that exists -/
  file? : String → Option (List UInt8)

/-- Why an agent did not start. -/
inductive StartError where
  | address
  /-- a capacity is greater than any can be, which is an accident and is
  not told -/
  | capacity
  | output
  | recording
  deriving DecidableEq, Repr

/-- The wording of the error, if it is told. -/
def StartError.message? : StartError → Option String
  | address => some "starting health metrics server"
  | capacity => none
  | output => some "opening trace output"
  | recording => some "starting replay tracer"

/-- The wording of a failed change of settings. -/
def reloadMessage (e : SettingsError) : String :=
  ": ".intercalate ("updating pipeline settings" :: e.chain)

/-- A recording that is being delivered. -/
structure Source where
  /-- what was not given yet -/
  left : List Replay.Entry
  /-- what was given so far -/
  summary : Replay.Summary
  /-- the blocks of the file that were read so far -/
  blocks : Nat
  deriving DecidableEq, Repr, Inhabited

namespace Source

/-- A recording of which nothing was read yet. -/
def new (file : List UInt8) : Source := ⟨Replay.entries file, default, 0⟩

/-- The next item, if the blocks that it needs were read. -/
def next? (s : Source) : Option Replay.Item :=
  (s.left.head?.filter fun e => e.blocks ≤ s.blocks).map Replay.Entry.item

/-- The recording after the blocks were read that its next item
needs. -/
def fetch (s : Source) : Source :=
  { s with blocks := s.left.head?.elim s.blocks fun e => max s.blocks e.blocks }

end Source

/-- The parts of an agent that was started. -/
structure Parts where
  pipeline : Pipeline
  printer : Printer
  /-- whether the printer still takes records -/
  printing : Bool
  /-- whether counters are still exported -/
  reporting : Bool
  /-- the counters at the last export -/
  exported : Counters
  /-- the recording, until someone waited for its end -/
  source : Option Source
  /-- what is to be done by the clock -/
  timetable : Timetable

/-- An agent with metrics in numbers `ν`. -/
structure Agent (ν : Type) where
  config : Config
  metrics : Metrics ν
  parts : Option Parts
  /-- whether it was ever stopped -/
  stopped : Bool

namespace Agent

variable {ν : Type}

/-- An agent that was not started yet. -/
def new (a : Arithmetic ν) (c : Config) : Agent ν := ⟨c, .zero a, none, false⟩

/-- The pipeline, once there is one. -/
def pipeline? (g : Agent ν) : Option Pipeline := g.parts.map Parts.pipeline

/-- Whether metrics can be served where the configuration wants them. -/
def canServe (c : Config) (w : Surroundings) : Bool :=
  c.healthAddress == "" || w.canListen c.healthAddress

/-- The metrics at the start. -/
def firstMetrics (a : Arithmetic ν) (m : Metrics ν) (c : Config) (cores : Nat) : Metrics ν :=
  (m.setCores a cores).setSettings a c.rate c.interval

/-- The timetable at the start: the printer first, then the tickers,
then the export. -/
def firstTimetable (c : Config) (p : Pipeline) (time : Nat) : Timetable :=
  let t := (Timetable.empty time).setAfter Span.second .flushOutput
  let t := (Ticker.startAll p time).foldl (fun t k => t.set k.due (.flushCore k)) t
  if c.statsInterval.isZero then t else t.setAfter c.statsInterval.nanos .report

/-- Pipeline and printer at the start. Without an interval for it,
nothing is ever exported. -/
def firstParts (c : Config) (cores time : Nat) : Parts :=
  let pipeline := Pipeline.new c cores
  { pipeline := pipeline
    printer := .new c.format c.dedupe .empty
    printing := true
    reporting := !c.statsInterval.isZero
    exported := .zero
    source := none
    timetable := firstTimetable c pipeline time }

/-- Parts that come to rest as soon as they start. -/
def atRest (p : Parts) : Parts :=
  { p with
    pipeline := p.pipeline.close
    printing := false
    reporting := false
    source := p.source.map fun _ => default
    timetable := .empty p.timetable.now }

/-- Starts the agent. Where it fails, what was already started stays. -/
def start (a : Arithmetic ν) (w : Surroundings) (g : Agent ν) :
    Except StartError Unit × Agent ν :=
  let c := g.config
  let cores := c.cpus.getD w.cores
  let rest (p : Parts) : Parts := if g.stopped then atRest p else p
  if !canServe c w then (.error .address, g)
  else if !Pipeline.isPossible c then (.error .capacity, g)
  else
    -- From here on the gauges show the configuration, whether the start succeeds or not.
    let g := { g with metrics := firstMetrics a g.metrics c cores }
    if !w.canWrite c.outputPath then (.error .output, g)
    else
      let parts := firstParts c cores w.time
      match c.replayPath with
      | none => (.ok (), { g with parts := some (rest parts) })
      | some path =>
        match w.file? path with
        -- The parts were started before the recording is looked for, and they stay.
        | none => (.error .recording, { g with parts := some (rest parts) })
        | some file =>
          let parts := { parts with source := some (.new file) }
          (.ok (), { g with parts := some (rest parts) })

/-- Takes over the sample rate and the interval of a configuration, or
changes nothing. Before the start it takes over the whole
configuration. -/
def reload (a : Arithmetic ν) (g : Agent ν) (c : Config) : Except SettingsError Unit × Agent ν :=
  match g.parts with
  | none => (.ok (), { g with config := c })
  | some parts =>
    match parts.pipeline.update c.rate c.interval with
    | (.error e, pipeline) =>
      (.error e, { g with parts := some { parts with pipeline := pipeline } })
    | (.ok (), pipeline) =>
      (.ok (),
        { g with
          parts := some { parts with pipeline := pipeline }
          metrics := g.metrics.setSettings a c.rate c.interval
          config := { g.config with rate := c.rate, interval := c.interval } })

end Agent

end RuleTrace
