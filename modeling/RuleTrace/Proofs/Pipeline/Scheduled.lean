import RuleTrace.Proofs.Pipeline.Tickers

/-!
# `RuleTrace.Proofs.Pipeline.Scheduled`: tickers while the settings change

Here time passes for a pipeline with a ticker for each core, while
notifications come in and the settings are updated, in any order
(`Scheduled.Step`). Nobody else is at the locks.

`Running.step` says what one step does: the ticker of the core goes on as
a `Ticker.Course`, and it is not due after the step. By induction this is
so for all steps (`Running.run`). The ids that wait on the core become
fewer by its ticks only, a batch with each, and while the interval is zero
there come no new ones (`Running.pendingIds_while_zero`).
`ticker_follows_settings` puts it together, from the start of the tickers
on.
-/

set_option autoImplicit false

namespace RuleTrace

namespace Scheduled

/-! ### One step -/

/-- What may happen while the tickers run. -/
inductive Step where
  | update (rate : UInt64) (interval : Span)
  | trace (core : Nat) (n : Notification) (now : UInt64)
  | advance (span : Span)

/-- The interval that a step sets. -/
def Step.interval? : Step → Option UInt64
  | .update _ interval => some interval.saturated
  | .trace .. => none
  | .advance _ => none

/-- The interval in force after steps. -/
def inForce (interval : UInt64) (steps : List Step) : UInt64 :=
  (steps.filterMap Step.interval?).getLast?.getD interval

/-- After a step. -/
def after (s : Scheduled) : Step → Scheduled
  | .update rate interval => { s with pipeline := (s.pipeline.update rate interval).2 }
  | .trace core n now => { s with pipeline := (s.pipeline.trace core n now).2 }
  | .advance span => s.advance span

/-- After steps. -/
def afterAll (s : Scheduled) (steps : List Step) : Scheduled := steps.foldl after s

/-- The ticks of a core in one step. -/
def ticksIn (core : Nat) (s : Scheduled) : Step → List Tick
  | .update .. => []
  | .trace .. => []
  | .advance span => Ticker.ticksOf core s.tickers s.pipeline (s.now + span.nanos)

/-- The ticks of a core in steps. -/
def ticks (core : Nat) : Scheduled → List Step → List Tick
  | _, [] => []
  | s, step :: steps => s.ticksIn core step ++ ticks core (s.after step) steps

/-- The interval in force. -/
def interval (s : Scheduled) : UInt64 := s.pipeline.settings.interval

/-- The ticker of a core. -/
def ticker? (s : Scheduled) (core : Nat) : Option Ticker := Ticker.ofCore? s.tickers core

/-- The ids that wait on a core, the oldest first. -/
def pendingIds (s : Scheduled) (core : Nat) : List UInt32 := s.pipeline.pendingIds core

/-- Tickers that run, at most one for each core, for a pipeline that
aggregates. -/
structure Running (batch attempts : Nat) (s : Scheduled) : Prop where
  undisturbed : s.pipeline.Undisturbed true batch attempts
  distinct : (s.tickers.map Ticker.core).Nodup
  positive : ∀ t ∈ s.tickers, 0 < t.period

namespace Running

variable {batch attempts : Nat} {s : Scheduled} (h : s.Running batch attempts)
include h

/-- A step leaves the tickers running. -/
theorem after (step : Step) : (s.after step).Running batch attempts := by
  cases step with
  | update rate interval =>
    exact ⟨h.undisturbed.after (.update rate interval), h.distinct, h.positive⟩
  | trace core n now => exact ⟨h.undisturbed.after (.trace core n now), h.distinct, h.positive⟩
  | advance span =>
    -- Ticking changes the pipeline by passes only, and keeps the cores of the tickers.
    obtain ⟨hcores, hperiods⟩ := Ticker.tickAll_fst h.positive s.pipeline (s.now + span.nanos)
    obtain ⟨passes, -, hpasses⟩ := Ticker.tickAll_snd s.tickers s.pipeline (s.now + span.nanos)
    refine ⟨?_, ?_, hperiods⟩
    · show (Ticker.tickAll s.tickers s.pipeline _).2.Undisturbed true batch attempts
      rw [hpasses]
      exact h.undisturbed.flushAll passes
    · show ((Ticker.tickAll s.tickers s.pipeline _).1.map Ticker.core).Nodup
      rw [hcores]
      exact h.distinct

/-- A step sets the interval or leaves it. -/
theorem interval_after (hattempts : 0 < attempts) (step : Step) :
    (s.after step).interval = step.interval?.getD s.interval := by
  cases step with
  | update rate interval => exact Pipeline.interval_update h.undisturbed hattempts rate interval
  | trace core n now =>
    exact congrArg Settings.interval (Pipeline.onlyOn_trace s.pipeline core n now).settings_eq
  | advance span =>
    obtain ⟨passes, -, hpasses⟩ := Ticker.tickAll_snd s.tickers s.pipeline (s.now + span.nanos)
    show (Ticker.tickAll s.tickers s.pipeline _).2.settings.interval = _
    rw [hpasses, Pipeline.settings_flushAll]
    rfl

section
variable {core : Nat} {t : Ticker} (ht : s.ticker? core = some t)
include ht

/-- A step leaves the ticker alone, or it lets it make the ticks that are
due. -/
theorem step (hdue : t.isDue s.now = false) (step : Step) :
    ∃ u, (s.after step).ticker? core = some u ∧
      Ticker.Course t (s.ticksIn core step) u ∧ u.isDue (s.after step).now = false := by
  cases step with
  | update rate interval => exact ⟨t, ht, .rest, hdue⟩
  | trace core n now => exact ⟨t, ht, .rest, hdue⟩
  | advance span =>
    have hpositive := h.positive t (Ticker.mem_of_ofCore? ht).1
    obtain ⟨before, others, -, -, hticks, hticker, -⟩ :=
      Ticker.tickAll_of_ofCore? h.positive h.distinct ht s.pipeline (s.now + span.nanos)
    refine ⟨_, hticker, ?_, Ticker.not_isDue_tick hpositive _ _⟩
    show Ticker.Course t (Ticker.ticksOf core s.tickers s.pipeline _) _
    rw [hticks]
    exact Ticker.course_tick hpositive _ _

/-- When time passes, each tick reads the interval in force, and finds a
pipeline to which nobody else does anything. -/
theorem of_mem_ticksIn {span : Span} {k : Tick} (hk : k ∈ s.ticksIn core (.advance span)) :
    k.now = s.now + span.nanos ∧ k.ticker.core = core ∧ k.interval = s.interval ∧
      k.pipeline.Undisturbed true batch attempts := by
  obtain ⟨before, others, -, -, hticks, -, -⟩ :=
    Ticker.tickAll_of_ofCore? h.positive h.distinct ht s.pipeline (s.now + span.nanos)
  have hk : k ∈ t.ticksAt (s.pipeline.flushAll before) (s.now + span.nanos) := hticks ▸ hk
  obtain ⟨hnow, hcore, n, hpipeline⟩ := Ticker.exists_passes_of_mem_ticksFor hk
  have htcore := (Ticker.mem_of_ofCore? ht).2
  refine ⟨hnow, hcore.trans htcore, ?_, ?_⟩
  · show (k.pipeline.flushCore k.ticker.core).2.settings.interval = _
    rw [(Pipeline.onlyOn_flushCore ..).settings_eq, hpipeline, Pipeline.settings_flushAll,
      Pipeline.settings_flushAll]
    rfl
  · rw [hpipeline]
    exact (h.undisturbed.flushAll before).flushAll _

/-- When time passes, the core loses a batch of ids with each tick. -/
theorem pendingIds_advance (hattempts : 0 < attempts) (span : Span) :
    (s.after (.advance span)).pendingIds core
      = (s.pendingIds core).drop ((s.ticksIn core (.advance span)).length * batch) := by
  obtain ⟨before, others, hbefore, hothers, hticks, -, he⟩ :=
    Ticker.tickAll_of_ofCore? h.positive h.distinct ht s.pipeline (s.now + span.nanos)
  have htcore := (Ticker.mem_of_ofCore? ht).2
  rw [Ticker.tick_snd, ← Pipeline.flushAll_append, ← Pipeline.flushAll_append] at he
  show (Ticker.tickAll s.tickers s.pipeline _).2.pendingIds core = _
  -- Of all these passes only those of its own ticker are over the core.
  rw [he, Pipeline.pendingIds_flushAll h.undisturbed hattempts, List.count_append,
    List.count_append, List.count_eq_zero.mpr hbefore, List.count_eq_zero.mpr hothers, htcore,
    List.count_replicate_self, Nat.zero_add, Nat.add_zero, ← hticks]
  rfl

/-! ### Steps -/

/-- A run leaves the ticker with nothing to do, and what it did is a
course of ticks. -/
theorem run (hdue : t.isDue s.now = false) (steps : List Step) :
    (s.afterAll steps).Running batch attempts ∧
    (∃ u, (s.afterAll steps).ticker? core = some u ∧
      Ticker.Course t (s.ticks core steps) u ∧ u.isDue (s.afterAll steps).now = false) ∧
    ∀ k ∈ s.ticks core steps,
      k.ticker.core = core ∧ k.pipeline.Undisturbed true batch attempts := by
  -- Between two steps no tick is due: this the induction carries along with the ticker.
  induction steps generalizing s t with
  | nil => exact ⟨h, ⟨t, ht, .rest, hdue⟩, fun k hk => absurd hk List.not_mem_nil⟩
  | cons step steps ih =>
    obtain ⟨u, hu, hcourse, hnext⟩ := h.step ht hdue step
    obtain ⟨hrunning, ⟨v, hv, hrest, hlast⟩, hticks⟩ := ih (h.after step) hu hnext
    refine ⟨hrunning, ⟨v, hv, hcourse.trans hrest, hlast⟩, fun k hk => ?_⟩
    rcases List.mem_append.mp hk with hk | hk
    · cases step with
      | update rate interval => exact absurd hk List.not_mem_nil
      | trace core n now => exact absurd hk List.not_mem_nil
      | advance span =>
        obtain ⟨-, hcore, -, hundisturbed⟩ := h.of_mem_ticksIn ht hk
        exact ⟨hcore, hundisturbed⟩
    · exact hticks k hk

/-- While the interval stays zero, the core loses a batch of ids with
each tick and gets no new ones. -/
theorem pendingIds_while_zero (hattempts : 0 < attempts) (hdue : t.isDue s.now = false)
    (hzero : s.interval = 0) {steps : List Step}
    (hsteps : ∀ step ∈ steps, step.interval? = none ∨ step.interval? = some 0) :
    (s.afterAll steps).pendingIds core
      = (s.pendingIds core).drop ((s.ticks core steps).length * batch) := by
  -- At zero a notification stores nothing, and the updates among the steps leave the zero.
  induction steps generalizing s t with
  | nil =>
    show s.pendingIds core = _
    rw [ticks, List.length_nil, Nat.zero_mul, List.drop_zero]
  | cons step steps ih =>
    obtain ⟨u, hu, -, hnext⟩ := h.step ht hdue step
    have hstays : (s.after step).interval = 0 := by
      rw [h.interval_after hattempts]
      rcases hsteps step List.mem_cons_self with he | he <;> rw [he]
      · exact hzero
      · rfl
    have hone : (s.after step).pendingIds core
        = (s.pendingIds core).drop ((s.ticksIn core step).length * batch) := by
      cases step with
      | update rate interval => rw [ticksIn, List.length_nil, Nat.zero_mul]; rfl
      | trace source n now =>
        rw [ticksIn, List.length_nil, Nat.zero_mul]
        exact Pipeline.pendingIds_trace_of_zero hzero source n now core
      | advance span => exact h.pendingIds_advance ht hattempts span
    have hrest := ih (h.after step) hu hnext hstays
      fun later hlater => hsteps later (List.mem_cons_of_mem step hlater)
    show ((s.after step).afterAll steps).pendingIds core = _
    rw [hrest, hone, List.drop_drop, ticks, List.length_append, Nat.add_mul]

end

end Running

/-- The interval in force is the last one that was set. -/
theorem Running.interval_afterAll {batch attempts : Nat} {s : Scheduled}
    (h : s.Running batch attempts) (hattempts : 0 < attempts) (steps : List Step) :
    (s.afterAll steps).interval = inForce s.interval steps := by
  induction steps generalizing s with
  | nil => rfl
  | cons step steps ih =>
    show ((s.after step).afterAll steps).interval = _
    rw [ih (h.after step), h.interval_after hattempts, inForce, inForce]
    cases hset : step.interval? with
    | none => rw [List.filterMap_cons_none hset]; rfl
    | some w =>
      rw [List.filterMap_cons_some hset, List.getLast?_cons]
      cases (steps.filterMap Step.interval?).getLast? <;> rfl

/-! ### The start -/

/-- A pipeline whose tickers were not started yet. -/
structure Idle (aggregating : Bool) (batch attempts : Nat) (s : Scheduled) : Prop where
  undisturbed : s.pipeline.Undisturbed aggregating batch attempts
  tickers_eq : s.tickers = []
  not_cancelled : s.cancelled = false

namespace Idle

variable {aggregating : Bool} {batch attempts : Nat} {s : Scheduled}
  (h : s.Idle aggregating batch attempts)
include h

/-- Without tickers a step is an operation, or the passing of time. -/
theorem after (step : Step) : (s.after step).Idle aggregating batch attempts := by
  cases step with
  | update rate interval =>
    exact ⟨h.undisturbed.after (.update rate interval), h.tickers_eq, h.not_cancelled⟩
  | trace core n now =>
    exact ⟨h.undisturbed.after (.trace core n now), h.tickers_eq, h.not_cancelled⟩
  | advance span =>
    -- Nobody is there to tick.
    have hjump : s.after (.advance span) = { s with now := s.now + span.nanos } := by
      show s.jumpTo _ = _
      rw [jumpTo, h.tickers_eq]
      show Scheduled.mk s.pipeline [] _ s.cancelled = _
      rw [← h.tickers_eq]
    rw [hjump]
    exact ⟨h.undisturbed, h.tickers_eq, h.not_cancelled⟩

/-- Nothing that happens before the tickers are started starts one. -/
theorem afterAll (steps : List Step) : (s.afterAll steps).Idle aggregating batch attempts := by
  induction steps generalizing s with
  | nil => exact h
  | cons step steps ih => exact ih (h.after step)

/-- Starting the tickers makes them run. The ticker of each core that has
one is due one first period later. -/
theorem spawn {core : Nat} (hcore : core < s.spawn.1) :
    aggregating = true ∧ s.spawn.2.Running batch attempts ∧
    s.spawn.2.pipeline = s.pipeline ∧ s.spawn.2.now = s.now ∧
    s.spawn.2.ticker? core
      = some ⟨core, Ticker.firstPeriod s.interval, s.now + Ticker.firstPeriod s.interval⟩ := by
  have hstarted : core < (Ticker.startAll s.pipeline s.now).length := hcore
  have hspawn : s.spawn.2 = { s with tickers := Ticker.startAll s.pipeline s.now } := by
    simp only [Scheduled.spawn, h.not_cancelled, h.tickers_eq, Bool.false_eq_true, if_false,
      List.nil_append]
  rw [hspawn]
  cases hslots : s.pipeline.slots with
  | none =>
    rw [Ticker.startAll, hslots] at hstarted
    exact absurd hstarted (Nat.not_lt_zero core)
  | some a =>
    have haggregating : aggregating = true := by
      rw [← h.undisturbed.works.slots_eq, hslots]
      rfl
    -- There is a ticker for each core with a slot, with the first period of the interval in
    -- force.
    have hall : Ticker.startAll s.pipeline s.now
        = (List.range a.coreCount).map fun core =>
            Ticker.start core (Ticker.firstPeriod s.interval) s.now := by
      rw [Ticker.startAll, hslots]
      rfl
    have hcores : (Ticker.startAll s.pipeline s.now).map Ticker.core = List.range a.coreCount := by
      rw [hall, List.map_map]
      exact List.map_id _
    have hdistinct : ((Ticker.startAll s.pipeline s.now).map Ticker.core).Nodup := by
      rw [hcores]
      exact List.nodup_range
    refine ⟨haggregating, ⟨haggregating ▸ h.undisturbed, hdistinct, fun t ht => ?_⟩, rfl, rfl, ?_⟩
    · have ht : t ∈ Ticker.startAll s.pipeline s.now := ht
      rw [hall] at ht
      obtain ⟨c, -, rfl⟩ := List.mem_map.mp ht
      exact Ticker.firstPeriod_pos s.interval
    · have hmem : Ticker.start core (Ticker.firstPeriod s.interval) s.now
          ∈ Ticker.startAll s.pipeline s.now := by
        rw [hall, List.length_map, List.length_range] at hstarted
        rw [hall]
        exact List.mem_map_of_mem (List.mem_range.mpr hstarted)
      exact Ticker.ofCore?_of_mem hdistinct hmem

end Idle

/-- A new pipeline has no tickers. -/
theorem idle_new (c : Config) (cores : Nat) :
    (Scheduled.new (Pipeline.new c cores)).Idle c.isAggregating (Pipeline.new c cores).batch
      c.attempts :=
  ⟨Pipeline.undisturbed_new c cores, rfl, rfl⟩

/-! ### The whole run -/

/-- Any configuration that allows an attempt at the locks, anything that
happens before the tickers are started and while they run, and any core
that has a ticker. The start is the first poll of the tickers, at which
they read the interval and the clock (`Scheduled.spawn`); all that happens
until then comes before it.

The ticks of the core are a course that begins with a ticker that is due
one first period after the start. So no period is ever zero, and each is
the last interval that a tick read and that was not zero, or the first
period; the ticker is due at multiples of it after it was started. What a
tick reads is the interval that was set last. A change is noticed at the
next tick, and no tick that is due is left out. Each tick takes the oldest
ids of its core, as many as a batch holds. Once the interval was set to
zero and as long as it stays so, each tick takes a batch of the ids that
waited then, and no new ones come. -/
theorem ticker_follows_settings {c : Config} (hattempts : 0 < c.attempts) (cores : Nat)
    (before steps : List Step) (core : Nat)
    (hcore : core < ((Scheduled.new (Pipeline.new c cores)).afterAll before).spawn.1) :
    let begun := ((Scheduled.new (Pipeline.new c cores)).afterAll before).spawn.2
    let s := begun.afterAll steps
    let first := Ticker.firstPeriod begun.interval
    let batch := max c.flushBatch 1
    (∃ t, s.ticker? core = some t ∧
      Ticker.Course ⟨core, first, begun.now + first⟩ (begun.ticks core steps) t ∧
      0 < t.period ∧ t.period = Ticker.lastPeriod first (begun.ticks core steps) ∧
      (∃ n, 0 < n ∧
        t.due = Ticker.lastStart begun.now first (begun.ticks core steps) + n * t.period) ∧
      t.isDue s.now = false) ∧
    (∀ done k rest, begun.ticks core steps = done ++ k :: rest →
      k.ticker.core = core ∧ k.ticker.isDue k.now = true ∧ 0 < k.ticker.period ∧
      k.ticker.period = Ticker.lastPeriod first done ∧ k.TakesBatch batch) ∧
    s.interval = inForce begun.interval steps ∧
    (∀ span,
      (∀ k ∈ s.ticksIn core (.advance span),
        k.now = s.now + span.nanos ∧ k.interval = s.interval) ∧
      (s.after (.advance span)).pendingIds core
        = (s.pendingIds core).drop ((s.ticksIn core (.advance span)).length * batch)) ∧
    ∀ rate more, (∀ step ∈ more, step.interval? = none ∨ step.interval? = some 0) →
      let off := s.after (.update rate .zero)
      (off.afterAll more).pendingIds core
        = (s.pendingIds core).drop ((off.ticks core more).length * batch) ∧
      ((off.afterAll more).pendingIds core).length
        = (s.pendingIds core).length - (off.ticks core more).length * batch := by
  intro begun s first batch
  have hidle := (idle_new c cores).afterAll before
  obtain ⟨haggregating, hbegun, hpipeline, hnow, hticker⟩ := hidle.spawn hcore
  have hbatch : (Pipeline.new c cores).batch = batch := by
    rw [Pipeline.new]
    split <;> rfl
  have hinterval : ((Scheduled.new (Pipeline.new c cores)).afterAll before).interval
      = begun.interval := congrArg (fun p => p.settings.interval) hpipeline.symm
  rw [hbatch] at hbegun
  rw [← hnow, hinterval] at hticker
  have hfirst : 0 < first := Ticker.firstPeriod_pos begun.interval
  -- The ticker is not due when it is started, so the run begins with nothing left to do.
  have hnotDue : (⟨core, first, begun.now + first⟩ : Ticker).isDue begun.now = false :=
    Ticker.not_isDue_of_lt (Nat.lt_add_of_pos_right hfirst)
  obtain ⟨hs, ⟨t, ht, hcourse, hdue⟩, hticks⟩ := hbegun.run hticker hnotDue steps
  have hmultiple := hcourse.due_eq Nat.zero_lt_one
    (show begun.now + first = begun.now + 1 * first by rw [Nat.one_mul])
  refine ⟨⟨t, ht, hcourse, hcourse.period_pos hfirst, hcourse.period_eq, hmultiple, hdue⟩,
    fun done k rest he => ?_, hbegun.interval_afterAll hattempts steps, fun span => ?_,
    fun rate more hmore => ?_⟩
  · have hk : k ∈ begun.ticks core steps := he ▸ List.mem_append_right done List.mem_cons_self
    obtain ⟨hkdue, -, hpos, hperiod⟩ := Ticker.Course.at_tick (he ▸ hcourse) hfirst
    exact ⟨(hticks k hk).1, hkdue, hpos, hperiod, Tick.takesBatch (hticks k hk).2 hattempts⟩
  · refine ⟨fun k hk => ?_, hs.pendingIds_advance ht hattempts span⟩
    obtain ⟨hknow, -, hread, -⟩ := hs.of_mem_ticksIn ht hk
    exact ⟨hknow, hread⟩
  · intro off
    have hoff := hs.after (.update rate .zero)
    have hzero : off.interval = 0 := hs.interval_after hattempts (.update rate .zero)
    have hticker : off.ticker? core = some t := ht
    have hleft := hoff.pendingIds_while_zero hticker hattempts hdue hzero hmore
    have hsame : off.pendingIds core = s.pendingIds core := rfl
    rw [hsame] at hleft
    exact ⟨hleft, by rw [hleft, List.length_drop]⟩

/-- Three packets wait on the second of two cores. The interval is doubled
before the first tick, which takes one of them and starts the ticker
anew. Then it is set to zero: the next packet does not wait, and the
second tick leaves one of the other two. -/
theorem ticker_follows_settings_doubled_and_off :
    let c : Config := { Config.standard with interval := .ofMillis 10, flushBatch := 1 }
    let n : UInt64 → Notification := fun identity =>
      { (default : Notification) with
        eventKind := EventKind.rule.code
        packet := { (default : Packet) with identity := identity } }
    let fresh := Scheduled.new (Pipeline.new c 2)
    let steps : List Step := [.trace 1 (n 1) 0, .trace 1 (n 2) 0, .trace 1 (n 3) 0,
      .update 0 (.ofMillis 20), .advance (.ofMillis 10)]
    let s := fresh.spawn.2.afterAll steps
    let more : List Step := [.trace 1 (n 4) 0, .advance (.ofMillis 20)]
    let off := s.after (.update 0 .zero)
    0 < c.attempts ∧ 1 < fresh.spawn.1 ∧
    (∃ t, s.ticker? 1 = some t ∧ t.period = 20000000) ∧
    (s.pendingIds 1).length = 2 ∧ (off.ticks 1 more).length = 1 ∧
    ((off.afterAll more).pendingIds 1).length = 1 := by
  intro c n fresh steps s more off
  have hattempts : 0 < c.attempts := by decide
  have hcore : 1 < fresh.spawn.1 := by decide
  have hmore : ∀ step ∈ more, step.interval? = none ∨ step.interval? = some 0 := by
    intro step hstep
    rcases List.mem_cons.mp hstep with rfl | hstep
    · exact .inl rfl
    · rw [List.mem_singleton.mp hstep]
      exact .inl rfl
  obtain ⟨⟨t, ht, -, -, hperiod, -⟩, -, -, -, hoff⟩ :=
    ticker_follows_settings hattempts 2 [] steps 1 hcore
  have hlast : Ticker.lastPeriod (Ticker.firstPeriod fresh.spawn.2.interval)
      (fresh.spawn.2.ticks 1 steps) = 20000000 := by
    decide +kernel
  have hwaiting : (s.pendingIds 1).length = 2 := by decide +kernel
  have hticks : (off.ticks 1 more).length = 1 := by decide +kernel
  have hleft := (hoff 0 more hmore).2
  refine ⟨hattempts, hcore, ⟨t, ht, hperiod.trans hlast⟩, hwaiting, hticks, hleft.trans ?_⟩
  show (s.pendingIds 1).length - (off.ticks 1 more).length * 1 = 1
  rw [hwaiting, hticks]

end Scheduled

end RuleTrace
