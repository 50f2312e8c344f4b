import RuleTrace.PerCore
import RuleTrace.Span
import RuleTrace.Text.Numeral

/-!
# `RuleTrace.Config.Basic`: the configuration

What an agent is told when it starts, with the standard values, and
the rules that a configuration has to keep (`Config.validate`). The
capacities of stores are looked at only where aggregation is on.
-/

set_option autoImplicit false

namespace RuleTrace

/-- How records are written. -/
inductive OutputFormat where
  | text
  | json
  deriving DecidableEq, Repr

def OutputFormat.name : OutputFormat → String
  | text => "text"
  | json => "json"

/-- The configuration of an agent. -/
structure Config where
  logLevel : String
  /-- every n-th rule match is kept; zero keeps all -/
  rate : UInt64
  /-- time between flushes; zero turns aggregation off -/
  interval : Span
  storeCapacity : Nat
  queueCapacity : Nat
  /-- records flushed per core and tick -/
  flushBatch : Nat
  /-- capacity of the lane without aggregation -/
  directCapacity : Nat
  /-- capacity of each lane with aggregation -/
  laneCapacity : Nat
  format : OutputFormat
  /-- whether equal neighbours are written as one -/
  dedupe : Bool
  /-- file to write to, in place of standard output -/
  outputPath : Option String
  /-- attempts to get a lock -/
  attempts : Nat
  /-- number of cores, if it is not to be found out -/
  cpus : Option Nat
  /-- file of recorded notifications -/
  replayPath : Option String
  /-- time between replayed notifications -/
  pace : Span
  /-- time between exports of the counters -/
  statsInterval : Span
  /-- where to serve metrics; empty for nowhere -/
  healthAddress : String
  deriving DecidableEq, Repr

/-- Which rule a configuration breaks. -/
inductive ConfigError where
  | storeCapacity
  | queueCapacity
  | flushBatch
  | directCapacity
  | laneCapacity
  | attempts
  | cpus (given : Nat)
  | statsInterval
  deriving DecidableEq, Repr

/-- The wording of the error. -/
def ConfigError.message : ConfigError → String
  | storeCapacity => "aggregation.store_capacity must be positive"
  | queueCapacity => "aggregation.queue_capacity must be positive"
  | flushBatch => "aggregation.flush_batch must be positive"
  | directCapacity => "output.direct_capacity must be positive"
  | laneCapacity => "output.lane_capacity must be positive"
  | attempts => "lock.retries must be positive"
  | cpus given =>
    "cpus must be between 1 and " ++ String.ofList (Text.decimal coreLimit)
      ++ ", got " ++ String.ofList (Text.decimal given)
  | statsInterval => "stats_interval must be positive"

namespace Config

/-- The standard configuration. -/
def standard : Config where
  logLevel := "info"
  rate := 0
  interval := .ofParts 1 0
  storeCapacity := 4096
  queueCapacity := 4096
  flushBatch := 1000
  directCapacity := 262144
  laneCapacity := 65536
  format := .text
  dedupe := true
  outputPath := none
  attempts := 1000
  cpus := none
  replayPath := none
  pace := .zero
  statsInterval := .ofParts 10 0
  healthAddress := ":9090"

instance : Inhabited Config := ⟨standard⟩

/-- Whether aggregation is on. -/
def isAggregating (c : Config) : Bool := !c.interval.isZero

/-- Each rule with whether the configuration breaks it, in the order
in which they are looked at. -/
def checks (c : Config) : List (Bool × ConfigError) :=
  [(c.isAggregating && c.storeCapacity == 0, .storeCapacity),
   (c.isAggregating && c.queueCapacity == 0, .queueCapacity),
   (c.isAggregating && c.flushBatch == 0, .flushBatch),
   (c.directCapacity == 0, .directCapacity),
   (c.laneCapacity == 0, .laneCapacity),
   (c.attempts == 0, .attempts),
   (c.cpus.any fun n => n == 0 || coreLimit < n, .cpus (c.cpus.getD 0)),
   (c.statsInterval.isZero, .statsInterval)]

/-- The first rule that the configuration breaks. -/
def firstFault (c : Config) : Option ConfigError := (c.checks.find? (·.1)).map (·.2)

/-- Accepts a configuration that keeps all rules. -/
def validate (c : Config) : Except ConfigError Unit :=
  match c.firstFault with
  | some e => .error e
  | none => .ok ()

end Config

end RuleTrace
