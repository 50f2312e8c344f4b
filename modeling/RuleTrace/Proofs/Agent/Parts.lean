import RuleTrace.Agent.Action
import RuleTrace.Proofs.Config
import RuleTrace.Proofs.Pipeline.Drain

/-!
# `RuleTrace.Proofs.Agent.Parts`: what becomes of the parts of an agent

An agent is its parts with what is told of them. `start_of_ok` says
which parts a start leaves, and `parts_perform` which parts an action
leaves (`Parts.after`), so that what is to be known of a run can be
proved of the parts alone. The equations for the single actions
(`deliver_eq` and those after it) are the frame: what an action does not
name, it does not change.
-/

set_option autoImplicit false

namespace RuleTrace

namespace Parts

/-- The parts after an action. -/
def after (p : Parts) (stamp : UInt64 → String) : Action → Parts
  | .deliver now processor => p.deliver now processor
  | .flushCore core => p.flushCore core
  | .offer core => p.offer core
  | .print => (p.print stamp).2
  | .flushOutput => p.flushOutput stamp
  | .report => if p.reporting then { p with exported := p.pipeline.counters } else p
  | .reload c => { p with pipeline := (p.pipeline.update c.rate c.interval).2 }

/-- A delivery changes the recording and the pipeline only. -/
theorem deliver_eq (p : Parts) (now : UInt64) (processor : Nat) :
    p.deliver now processor = { p with
      source := (p.deliver now processor).source
      pipeline := (p.deliver now processor).pipeline } := by
  rw [deliver]
  cases p.source with
  | none => rfl
  | some s =>
    dsimp only
    cases s.left with
    | nil => rfl
    | cons entry rest =>
      dsimp only
      cases entry.item <;> rfl

/-- Printing changes the pipeline and the printer only. -/
theorem print_eq (p : Parts) (stamp : UInt64 → String) : (p.print stamp).2 = { p with
    pipeline := (p.print stamp).2.pipeline
    printer := (p.print stamp).2.printer
    printing := (p.print stamp).2.printing } := by
  rw [print]
  split
  · cases p.pipeline.tryReceive? with
    | none => rfl
    | some found =>
      dsimp only
      split <;> rfl
  · rfl

/-- Of the pipeline it changes the lanes only. -/
theorem pipeline_print (p : Parts) (stamp : UInt64 → String) :
    ∃ c, (p.print stamp).2.pipeline = p.pipeline.withChannel c := by
  rw [print]
  split
  · rw [Pipeline.tryReceive?]
    cases p.pipeline.outlet.channel.tryReceive? with
    | none => exact ⟨p.pipeline.outlet.channel, rfl⟩
    | some found =>
      dsimp only [Option.map_some]
      split
      · exact ⟨_, rfl⟩
      · exact ⟨_, rfl⟩
  · exact ⟨p.pipeline.outlet.channel, rfl⟩

/-- Flushing the output changes the printer only. -/
theorem flushOutput_eq (p : Parts) (stamp : UInt64 → String) :
    p.flushOutput stamp = { p with printer := (p.flushOutput stamp).printer } := by
  rw [flushOutput]
  split <;> rfl

/-- Printing what is left changes the pipeline and the printer only. -/
theorem finishPrinting_eq (p : Parts) (stamp : UInt64 → String) :
    (p.finishPrinting stamp).2 = { p with
      pipeline := (p.finishPrinting stamp).2.pipeline
      printer := (p.finishPrinting stamp).2.printer
      printing := (p.finishPrinting stamp).2.printing } := by
  rw [finishPrinting]
  split <;> rfl

/-- What is left is read, and nothing is counted by that. -/
theorem counters_finishPrinting (p : Parts) (stamp : UInt64 → String) :
    (p.finishPrinting stamp).2.pipeline.counters = p.pipeline.counters := by
  rw [finishPrinting]
  split <;> rfl

end Parts

namespace Agent

variable {ν : Type} (a : Arithmetic ν) (stamp : UInt64 → String)

/-- An export changes only what was exported. -/
theorem parts_report {g : Agent ν} {p : Parts} (hparts : g.parts = some p) :
    ∃ exported, (g.report a).parts = some { p with exported := exported } := by
  rw [report, hparts]
  dsimp only
  split
  · exact ⟨_, rfl⟩
  · exact ⟨p.exported, hparts⟩

/-- An action leaves the parts that the same action on the parts alone
leaves. -/
theorem parts_perform (g : Agent ν) (x : Action) :
    (g.perform a stamp x).parts = g.parts.map fun p => p.after stamp x := by
  cases hparts : g.parts with
  | none =>
    cases x <;> simp only [perform, withParts, print, report, reload, hparts, Option.map_none]
  | some p =>
    cases x with
    | deliver now processor => simp only [perform, withParts, hparts, Option.map_some, Parts.after]
    | flushCore core => simp only [perform, withParts, hparts, Option.map_some, Parts.after]
    | offer core => simp only [perform, withParts, hparts, Option.map_some, Parts.after]
    | flushOutput => simp only [perform, withParts, hparts, Option.map_some, Parts.after]
    | print =>
      simp only [perform, print, hparts, Option.map_some, Parts.after]
      -- Whether something was printed only makes a difference for the metrics.
      rcases p.print stamp with ⟨_ | _, q⟩ <;> rfl
    | report =>
      simp only [perform, report, hparts, Option.map_some, Parts.after]
      split
      · rfl
      · exact hparts
    | reload c =>
      simp only [perform, reload, hparts, Option.map_some, Parts.after]
      rcases p.pipeline.update c.rate c.interval with ⟨_ | _, pipeline⟩ <;> rfl

/-- A turn leaves the parts that the same action leaves, with the locks
given back. -/
theorem parts_take (g : Agent ν) (t : Turn) :
    (g.take a stamp t).parts = g.parts.map fun p =>
      ((p.withCoreLocks t.held).after stamp t.action).withCoreLocks fun _ => false := by
  rw [take, withCoreLocks, withParts, parts_perform, withCoreLocks, withParts, Option.map_map,
    Option.map_map]
  rfl

/-! ### The parts at the start -/

/-- A start that succeeds changes parts and metrics only. The parts are
those of the configuration, perhaps with a recording; an agent that was
stopped before has them come to rest. -/
theorem start_of_ok {g : Agent ν} {w : Surroundings} (h : (g.start a w).1 = .ok ()) :
    ∃ source, (g.start a w).2 = { g with
      parts := some ((if g.stopped then atRest else id)
        { firstParts g.config (g.config.cpus.getD w.cores) w.time with source := source })
      metrics := firstMetrics a g.metrics g.config (g.config.cpus.getD w.cores) } := by
  -- Each of the conditions is checked in turn, and a start that succeeds meets all of them.
  cases hserve : canServe g.config w with
  | false => simp [start, hserve] at h
  | true =>
    cases hpossible : Pipeline.isPossible g.config with
    | false => simp [start, hserve, hpossible] at h
    | true =>
      cases hwrite : w.canWrite g.config.outputPath with
      | false => simp [start, hserve, hpossible, hwrite] at h
      | true =>
        cases hpath : g.config.replayPath with
        | none =>
          refine ⟨none, ?_⟩
          simp only [start, hserve, hpossible, hwrite, hpath]
          cases g.stopped <;> rfl
        | some path =>
          cases hfile : w.file? path with
          | none => simp [start, hserve, hpossible, hwrite, hpath, hfile] at h
          | some file =>
            refine ⟨some (.new file), ?_⟩
            simp only [start, hserve, hpossible, hwrite, hpath, hfile]
            cases g.stopped <;> rfl

/-- An agent after its first start. -/
def started (c : Config) (w : Surroundings) : Agent ν := ((Agent.new a c).start a w).2

/-- An agent that starts for the first time has the parts of its
configuration, perhaps with a recording. -/
theorem parts_started (c : Config) (w : Surroundings)
    (h : ((Agent.new a c).start a w).1 = .ok ()) :
    ∃ source, (started a c w).parts
      = some { firstParts c (c.cpus.getD w.cores) w.time with source := source } := by
  obtain ⟨source, hstart⟩ := start_of_ok a h
  exact ⟨source, congrArg Agent.parts hstart⟩

end Agent

end RuleTrace
