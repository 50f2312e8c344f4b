import RuleTrace.Decimal.Shortest
import RuleTrace.Metrics.Basic

/-!
# `RuleTrace.Metrics.Exposition`: metrics as text

Metrics are shown as families of samples, one sample on each line. Two
comment lines before a family tell what it means and of which type it
is. Families are ordered by name, samples by label.
-/

set_option autoImplicit false

namespace RuleTrace

/-- Metrics of one name. -/
structure MetricFamily (ν : Type) where
  name : String
  help : String
  type : String
  /-- the value of each label; a family without labels has one sample -/
  samples : List (Option String × ν)

namespace Metrics

variable {ν : Type}

/-- The counters ordered by name. -/
def countersByName : List Counter := Counter.all.mergeSort fun a b => a.name ≤ b.name

/-- A family of a single gauge. -/
def gauge (name help : String) (v : ν) : MetricFamily ν := ⟨name, help, "gauge", [(none, v)]⟩

/-- All families, ordered by name. -/
def families (m : Metrics ν) : List (MetricFamily ν) :=
  [gauge "aggregation_interval_seconds" "Current aggregation interval (0 means direct output)."
      m.interval,
    gauge "aggregation_pending" "Keys waiting in pending queues across all cores." m.pending,
    gauge "aggregation_stored" "Records held in aggregation stores across all cores." m.stored,
    gauge "cores" "Number of per-core pipeline slots." m.cores,
    ⟨"pipeline_events_total", "Total trace pipeline events by kind.", "counter",
      countersByName.map fun k => (some k.name, m.total k)⟩,
    ⟨"records_consumed_total", "Total trace records written by the consumer.", "counter",
      [(none, m.consumed)]⟩,
    gauge "sample_rate" "Current sampling rate (0 keeps all)." m.sampleRate]

/-- The name of a family as it is shown. -/
def shownName (f : MetricFamily ν) : String := "nftrace_" ++ f.name

/-- The comment lines of a family. -/
def comments (f : MetricFamily ν) : List String :=
  ["# HELP " ++ shownName f ++ " " ++ f.help, "# TYPE " ++ shownName f ++ " " ++ f.type]

/-- The line of a sample. -/
def sampleLine (text : ν → List Char) (f : MetricFamily ν) (sample : Option String × ν) : String :=
  let label :=
    match sample.1 with
    | none => ""
    | some kind => "\x7bkind=\"" ++ kind ++ "\"\x7d"
  shownName f ++ label ++ " " ++ String.ofList (text sample.2)

/-- The lines of the samples of a family. -/
def sampleLines (text : ν → List Char) (f : MetricFamily ν) : List String :=
  f.samples.map (sampleLine text f)

/-- The lines of metrics in binary64 numbers. -/
def expose (m : Metrics Float) : List String :=
  m.families.flatMap fun f => comments f ++ sampleLines Decimal.render f

/-- The same without comments. -/
def exposeSamples (m : Metrics Float) : List String :=
  m.families.flatMap (sampleLines Decimal.render)

end Metrics

end RuleTrace
