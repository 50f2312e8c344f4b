import RuleTrace.Proofs.Agent.Parts
import RuleTrace.Proofs.Metrics.Export

/-!
# `RuleTrace.Proofs.Agent.Export`: what an agent has exported in the end

A running agent counts and exports among much else. Whatever it does is
one of two things to its counters: it makes them grow, or it exports
their growth. `Agent.history` tells a run in this way, as steps of an
exporter, and `Agent.Exports` relates the agent to the exporter that
takes these steps. A run keeps them related (`Exports.run`), because all
but the exports leave alone what was exported (`perform_keeps`).

When the agent is stopped it exports once more, after its slots were
drained and its printer has finished. Nothing is counted later, so what
is shown then are the last counters of its pipeline
(`exports_show_counters`).
-/

set_option autoImplicit false

namespace RuleTrace

namespace Exporter

variable {ν : Type} {a : Arithmetic ν}

/-- The steps in which counters become others. -/
def stepsTo (before after : Counters) : List Step :=
  Counter.all.map fun k => .grow k (after.get k - before.get k)

/-- Steps in which counters grow change the counters only. -/
theorem afterAll_grow (d : Counter → UInt64) (ks : List Counter) (e : Exporter ν) :
    e.afterAll a (ks.map fun k => .grow k (d k))
      = { e with counters := ks.foldl (fun c k => c.add k (d k)) e.counters } := by
  induction ks generalizing e with
  | nil => rfl
  | cons k ks ih => exact ih _

/-- Counters that grow once each. -/
theorem get_foldl_add (d : Counter → UInt64) {ks : List Counter} (hks : ks.Nodup) (c : Counters)
    (j : Counter) :
    (ks.foldl (fun c k => c.add k (d k)) c).get j
      = if j ∈ ks then c.get j + d j else c.get j := by
  induction ks generalizing c with
  | nil => rfl
  | cons k ks ih =>
    obtain ⟨hnot, hrest⟩ := List.nodup_cons.mp hks
    rw [List.foldl_cons, ih hrest]
    by_cases hjk : j = k
    · subst hjk
      rw [if_neg hnot, if_pos List.mem_cons_self, Counters.get_add_self]
    · rw [Counters.get_add_of_ne _ _ (Ne.symm hjk)]
      simp [hjk]

/-- Counters come from what they were to anything by growing, since words
wrap. -/
theorem afterAll_stepsTo (e : Exporter ν) (c : Counters) :
    e.afterAll a (stepsTo e.counters c) = { e with counters := c } := by
  have hcounters : Counter.all.foldl (fun d k => d.add k (c.get k - e.counters.get k)) e.counters
      = c := by
    refine Counters.ext_get fun k => ?_
    rw [get_foldl_add _ Counter.nodup_all, if_pos k.mem_all, UInt64.add_comm, UInt64.sub_add_cancel]
  rw [stepsTo, afterAll_grow, hcounters]

end Exporter

namespace Agent

variable {ν : Type}

/-- The counters of the pipeline, zero before there is one. -/
def counters (g : Agent ν) : Counters := (g.parts.map fun p => p.pipeline.counters).getD .zero

section
variable (a : Arithmetic ν) (stamp : UInt64 → String)

/-- What an action does to the counters and to what is exported. -/
def steps (g : Agent ν) : Action → List Exporter.Step
  | .report => [.report]
  | x => Exporter.stepsTo g.counters (g.perform a stamp x).counters

/-- What actions do to them, one after another. -/
def history : List Action → Agent ν → List Exporter.Step
  | [], _ => []
  | x :: xs, g => g.steps a stamp x ++ history xs (g.perform a stamp x)

/-- What stopping the agent does to them. -/
def stopHistory (g : Agent ν) : List Exporter.Step :=
  Exporter.stepsTo g.counters (g.stop a stamp).counters ++ [.report]

end

/-- An agent with an exporter for its counters and their totals. -/
structure Exports (g : Agent ν) (p : Parts) (e : Exporter ν) : Prop where
  parts_eq : g.parts = some p
  reporting : p.reporting = true
  counters_eq : p.pipeline.counters = e.counters
  exported_eq : p.exported = e.exported
  events_eq : g.metrics.events = e.metrics.events

variable {a : Arithmetic ν} (stamp : UInt64 → String) {g : Agent ν} {p : Parts} {e : Exporter ν}

/-- An action that is no export lets the counters grow to what they are
after it. -/
theorem steps_of_ne {x : Action} (hx : x ≠ .report) :
    g.steps a stamp x = Exporter.stepsTo g.counters (g.perform a stamp x).counters := by
  cases x with
  | report => exact absurd rfl hx
  | _ => rfl

/-- An action that is no export leaves alone what was exported. -/
theorem perform_keeps (hparts : g.parts = some p) {x : Action} (hx : x ≠ .report) :
    ∃ q, (g.perform a stamp x).parts = some q ∧ q.reporting = p.reporting ∧
      q.exported = p.exported ∧ (g.perform a stamp x).metrics.events = g.metrics.events := by
  have hafter := parts_perform a stamp g x
  rw [hparts, Option.map_some] at hafter
  refine ⟨_, hafter, ?_⟩
  cases x with
  | report => exact absurd rfl hx
  | deliver now processor =>
    rw [Parts.after, p.deliver_eq]
    exact ⟨rfl, rfl, rfl⟩
  | flushCore core => exact ⟨rfl, rfl, rfl⟩
  | offer core => exact ⟨rfl, rfl, rfl⟩
  | flushOutput =>
    rw [Parts.after, p.flushOutput_eq]
    exact ⟨rfl, rfl, rfl⟩
  | print =>
    rw [Parts.after, p.print_eq, perform, print, hparts, Option.map_some]
    -- A record that was printed is counted, but not among the events.
    rcases p.print stamp with ⟨_ | _, q⟩ <;> exact ⟨rfl, rfl, rfl⟩
  | reload c =>
    rw [perform, reload, hparts]
    dsimp only
    rcases p.pipeline.update c.rate c.interval with ⟨_ | _, pipeline⟩ <;> exact ⟨rfl, rfl, rfl⟩

namespace Exports

/-- The counters of the agent are those of the exporter. -/
theorem eq_counters (h : g.Exports p e) : g.counters = e.counters := by
  rw [counters, h.parts_eq]
  exact h.counters_eq

/-- An export of the agent is one of the exporter, and leaves the pipeline. -/
theorem report (h : g.Exports p e) :
    ∃ q, (g.report a).Exports q (e.after a .report) ∧ q.pipeline = p.pipeline := by
  have hreport : g.report a = { g with
      parts := some { p with exported := p.pipeline.counters }
      metrics := (g.metrics.exportGrowth a p.pipeline.counters p.exported).setOccupancy a
        p.pipeline.occupancy } := by
    rw [Agent.report, h.parts_eq]
    simp only [h.reporting, if_true]
  refine ⟨{ p with exported := p.pipeline.counters }, ⟨?_, h.reporting, h.counters_eq,
    h.counters_eq, ?_⟩, rfl⟩
  · rw [hreport]
  · rw [hreport, h.counters_eq, h.exported_eq]
    show Vector.zipWith _ g.metrics.events _ = Vector.zipWith _ e.metrics.events _
    rw [h.events_eq]

/-- What keeps the parts going and what was exported may change the
counters. -/
theorem grow (h : g.Exports p e) {k : Agent ν} {q : Parts} (hparts : k.parts = some q)
    (hreporting : q.reporting = p.reporting) (hexported : q.exported = p.exported)
    (hevents : k.metrics.events = g.metrics.events) :
    k.Exports q (e.afterAll a (Exporter.stepsTo g.counters k.counters)) := by
  have hafter : k.counters = q.pipeline.counters := by
    rw [counters, hparts]
    rfl
  rw [h.eq_counters, hafter, Exporter.afterAll_stepsTo]
  exact ⟨hparts, hreporting.trans h.reporting, rfl, hexported.trans h.exported_eq,
    hevents.trans h.events_eq⟩

/-- Any action keeps the agent and its exporter together. -/
theorem perform (h : g.Exports p e) (x : Action) :
    ∃ q, (g.perform a stamp x).Exports q (e.afterAll a (g.steps a stamp x)) := by
  rcases Classical.em (x = .report) with rfl | hx
  · obtain ⟨q, hq, -⟩ := h.report (a := a)
    exact ⟨q, hq⟩
  · obtain ⟨q, hparts, hreporting, hexported, hevents⟩ := perform_keeps stamp h.parts_eq hx
    rw [steps_of_ne stamp hx]
    exact ⟨q, h.grow hparts hreporting hexported hevents⟩

/-- Actions one after another keep the agent and its exporter together. -/
theorem run (h : g.Exports p e) (actions : List Action) :
    ∃ q, (g.run a stamp actions).Exports q (e.afterAll a (g.history a stamp actions)) := by
  induction actions generalizing g p e with
  | nil => exact ⟨p, h⟩
  | cons x xs ih =>
    obtain ⟨q, hq⟩ := h.perform (a := a) stamp x
    obtain ⟨r, hr⟩ := ih hq
    refine ⟨r, ?_⟩
    rw [history, Exporter.afterAll_append]
    exact hr

/-- An agent that is stopped exports once more, when its pipeline has
come to rest. -/
theorem stop (h : g.Exports p e) :
    ∃ q, (g.stop a stamp).parts = some q ∧
      q.pipeline.counters = p.pipeline.drainAll.2.counters ∧
      q.pipeline.counters = (e.afterAll a (g.stopHistory a stamp)).exported ∧
      (g.stop a stamp).metrics.events
        = (e.afterAll a (g.stopHistory a stamp)).metrics.events := by
  -- The pipeline comes to rest, then the printer finishes, and the last export is made.
  let resting : Parts := { p with
    source := none
    pipeline := p.pipeline.drainAll.2
    timetable := .empty p.timetable.now }
  let last : Parts := (resting.finishPrinting stamp).2
  let k : Agent ν := { g with
    parts := some last
    metrics := g.metrics.addConsumed a (resting.finishPrinting stamp).1
    stopped := true }
  have hstop : g.stop a stamp = (k.report a).withParts fun p => { p with reporting := false } := by
    rw [Agent.stop, h.parts_eq]
  -- Printing does not touch what the exports remember.
  have hreporting : last.reporting = resting.reporting := by
    show (resting.finishPrinting stamp).2.reporting = _
    rw [resting.finishPrinting_eq]
  have hexported : last.exported = resting.exported := by
    show (resting.finishPrinting stamp).2.exported = _
    rw [resting.finishPrinting_eq]
  have hlast : k.Exports last _ := h.grow (a := a) rfl hreporting hexported rfl
  obtain ⟨q, hq, hpipeline⟩ := hlast.report (a := a)
  have hparts : (g.stop a stamp).parts = some { q with reporting := false } := by
    rw [hstop, withParts, hq.parts_eq]
    rfl
  have hcounters : (g.stop a stamp).counters = k.counters := by
    rw [counters, hparts]
    exact congrArg Pipeline.counters hpipeline
  refine ⟨_, hparts, ?_, ?_, ?_⟩
  · exact (congrArg Pipeline.counters hpipeline).trans (resting.counters_finishPrinting stamp)
  · rw [stopHistory, hcounters, Exporter.afterAll_append]
    exact hq.counters_eq
  · rw [stopHistory, hcounters, Exporter.afterAll_append, hstop]
    exact hq.events_eq

end Exports

/-! ### From the start to the end -/

/-- An agent starts with counters and totals of zero. -/
theorem exports_of_start {c : Config} {w : Surroundings}
    (hstart : ((Agent.new a c).start a w).1 = .ok ()) (hinterval : c.statsInterval ≠ .zero) :
    ∃ p, (started a c w).Exports p (Exporter.begin a) := by
  obtain ⟨source, hstarted⟩ := start_of_ok a hstart
  have hcounters := Pipeline.counters_new c (c.cpus.getD w.cores)
  have hreporting : c.statsInterval.isZero = false :=
    Bool.eq_false_iff.mpr (mt c.statsInterval.isZero_iff.mp hinterval)
  rw [started, hstarted]
  refine ⟨_, rfl, ?_, hcounters, rfl, rfl⟩
  show (!c.statsInterval.isZero) = true
  rw [hreporting]
  rfl

/-- Numbers that are exact, and counters none of which grows past the
greatest word.

Whatever growth and exports come in whatever order, an export leaves for
each counter the number that is shown at the value that the counter had
just then, which is all that it ever grew by. An export without growth
since the last one changes nothing.

An agent does with its counters what can be done with an exporter. So
whenever it exports, it shows the counters of its pipeline, and once it
was stopped it shows those that its pipeline ends with, which are the
counters after the last drain. -/
theorem exports_show_counters :
    (∀ steps, Exporter.Fits steps →
      let e := (Exporter.begin .exact).afterAll .exact steps
      let f := e.after .exact .report
      f.exported = e.counters ∧
      ∀ k, (f.exported.get k).toNat = Exporter.grown k steps ∧
        f.metrics.shown? k = some (Arithmetic.exact.ofNat (f.exported.get k).toNat)) ∧
    (∀ e : Exporter Rat, e.exported = e.counters → e.after .exact .report = e) ∧
    ∀ (stamp : UInt64 → String) (c : Config) (w : Surroundings) (actions : List Action),
      ((Agent.new .exact c).start .exact w).1 = .ok () → c.statsInterval ≠ .zero →
      let begun := started .exact c w
      let g := begun.run .exact stamp actions
      let stopped := g.stop .exact stamp
      Exporter.Fits (begun.history .exact stamp actions ++ g.stopHistory .exact stamp) →
      (∀ k, (g.report .exact).metrics.shown? k
        = some (Arithmetic.exact.ofNat (g.counters.get k).toNat)) ∧
      ∃ p q, g.parts = some p ∧ stopped.parts = some q ∧
        q.pipeline.counters = p.pipeline.drainAll.2.counters ∧
        ∀ k, stopped.metrics.shown? k
          = some (Arithmetic.exact.ofNat (q.pipeline.counters.get k).toNat) := by
  have ha := Arithmetic.additive_exact
  refine ⟨fun steps hfits => ?_, fun e => Exporter.after_report_of_eq, ?_⟩
  · intro e f
    have hexact : e.Exact .exact _ := Exporter.exact_afterAll ha hfits
    refine ⟨rfl, fun k => ⟨hexact.counted k, ?_⟩⟩
    rw [Metrics.shown?_eq, (hexact.report ha).total_eq]
  · intro stamp c w actions hstart hinterval begun g stopped hfits
    obtain ⟨p₀, hbegin⟩ := exports_of_start hstart hinterval
    obtain ⟨p, hrun⟩ := hbegin.run stamp actions
    refine ⟨fun k => ?_, ?_⟩
    · -- What fits for the whole history fits up to the stop.
      have hbefore : Exporter.Fits (begun.history .exact stamp actions) := fun k => by
        have := hfits k
        rw [Exporter.grown_append] at this
        omega
      obtain ⟨q, hreport, -⟩ := hrun.report
      have hexact := (Exporter.exact_afterAll ha hbefore).report ha
      rw [Metrics.shown?_eq, Metrics.total_congr hreport.events_eq, hexact.total_eq,
        hrun.eq_counters]
      rfl
    · -- The last export comes after the last count, so its totals are the counters in the end.
      obtain ⟨q, hparts, hdrained, hcounters, hevents⟩ := hrun.stop stamp
      rw [← Exporter.afterAll_append] at hcounters hevents
      refine ⟨p, q, hrun.parts_eq, hparts, hdrained, fun k => ?_⟩
      rw [Metrics.shown?_eq, Metrics.total_congr hevents,
        (Exporter.exact_afterAll ha hfits).total_eq, hcounters]

/-- Counters that are exported twice while they grow, and an agent that
exports between two matches, of which the second is still stored when it
is stopped. -/
theorem exports_show_counters_two_matches :
    let steps : List Exporter.Step :=
      [.grow .packetsSeen 5, .grow .merged 1, .report, .grow .packetsSeen 2]
    let f := ((Exporter.begin .exact).afterAll .exact steps).after .exact .report
    let line := "\x7b\"trace_type\":3\x7d\n".toList.map fun c => UInt8.ofNat c.toNat
    let c : Config := { Config.standard with replayPath := some "matches", healthAddress := "" }
    let w : Surroundings := ⟨0, 1, fun _ => true, fun _ => true, fun _ => some (line ++ line)⟩
    let stamp : UInt64 → String := fun _ => ""
    let actions : List Action := [.deliver 5 0, .report, .flushCore 0, .print, .deliver 6 0]
    let begun := started .exact c w
    let g := begun.run .exact stamp actions
    let stopped := g.stop .exact stamp
    Exporter.Fits steps ∧ f.metrics.shown? .packetsSeen = some 7 ∧
    f.metrics.shown? .merged = some 1 ∧
    ((Agent.new .exact c).start .exact w).1 = .ok () ∧ c.statsInterval ≠ .zero ∧
    Exporter.Fits (begun.history .exact stamp actions ++ g.stopHistory .exact stamp) ∧
    stopped.metrics.shown? .packetsSeen = some 2 ∧ stopped.metrics.shown? .flushed = some 2 := by
  intro steps f line c w stamp actions begun g stopped
  have hsteps : Exporter.Fits steps := fun k => by cases k <;> decide
  have hstart : ((Agent.new .exact c).start .exact w).1 = .ok () := rfl
  have hinterval : c.statsInterval ≠ .zero := by decide
  have hall : ∀ k ∈ Counter.all, Exporter.grown k
      (begun.history .exact stamp actions ++ g.stopHistory .exact stamp) < UInt64.size := by
    decide +kernel
  have hfits : Exporter.Fits _ := fun k => hall k k.mem_all
  obtain ⟨hexporter, -, hagent⟩ := exports_show_counters
  obtain ⟨-, hshown⟩ := hexporter steps hsteps
  obtain ⟨-, -, p, -, hparts, -, hstopped⟩ := hagent stamp c w actions hstart hinterval hfits
  have hcounters : p.pipeline.counters = stopped.counters := by
    rw [counters, hparts]
    rfl
  refine ⟨hsteps, (hshown .packetsSeen).2, (hshown .merged).2, hstart, hinterval, hfits, ?_, ?_⟩
  · have hseen : stopped.counters.get .packetsSeen = 2 := by decide +kernel
    rw [hstopped, hcounters, hseen]
    rfl
  · have hflushed : stopped.counters.get .flushed = 2 := by decide +kernel
    rw [hstopped, hcounters, hflushed]
    rfl

end Agent

end RuleTrace
