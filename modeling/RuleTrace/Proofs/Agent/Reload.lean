import RuleTrace.Proofs.Agent.Parts
import RuleTrace.Proofs.Pipeline.Mode

/-!
# `RuleTrace.Proofs.Agent.Reload`: a running agent and its settings

The sample rate and the interval of a running agent are kept three
times: by the settings of its pipeline, where they take effect, by two
gauges, where they can be looked at, and by its configuration. A reload
goes through all three and may fail on the way, for two reasons.

`Agent.InStep` says that the three agree, and that the configuration is
valid and stays so with any interval that the settings may take. This is
more than being valid: without an interval nobody looks at the
capacities of the stores, so the invariant has to remember that they
were looked at when the agent started, if it may ever aggregate.

Whatever else the agent does meanwhile, and whoever holds the lock of
the settings when a reload comes (`runAmid`), the invariant holds
(`InStep.runAmid`), and a reload does all of its work or nothing
(`reload_all_or_nothing`).
-/

set_option autoImplicit false

namespace RuleTrace

namespace Parts

/-- A delivery leaves the settings alone. -/
theorem settings_deliver (p : Parts) (now : UInt64) (processor : Nat) :
    (p.deliver now processor).pipeline.settings = p.pipeline.settings := by
  rw [deliver]
  cases p.source with
  | none => rfl
  | some s =>
    dsimp only
    cases s.left with
    | nil => rfl
    | cons entry rest =>
      dsimp only
      -- Of what a source tells only an event reaches the pipeline.
      cases entry.item with
      | event e => exact (Pipeline.onlyOn_trace ..).settings_eq
      | malformed line cause => rfl
      | unreadable => rfl

/-- So does every action but a reload. -/
theorem settings_after (p : Parts) (stamp : UInt64 → String) {x : Action}
    (hx : ∀ c, x ≠ .reload c) : (p.after stamp x).pipeline.settings = p.pipeline.settings := by
  cases x with
  | reload c => exact absurd rfl (hx c)
  | deliver now processor => exact p.settings_deliver now processor
  | flushCore core => exact (Pipeline.onlyOn_flushCore p.pipeline core).settings_eq
  | offer core => exact (Pipeline.onlyOn_flushCore { p.pipeline with batch := 1 } core).settings_eq
  | flushOutput => rw [after, p.flushOutput_eq]
  | print =>
    obtain ⟨c, hc⟩ := p.pipeline_print stamp
    rw [after, hc]
    rfl
  | report =>
    rw [after]
    split <;> rfl

end Parts

namespace Agent

variable {ν : Type}

/-! ### Runs in which the settings are locked by others -/

/-- The agent while the lock of its settings is in a given state. -/
def withSettingsLock (g : Agent ν) (l : Lock) : Agent ν :=
  g.withParts fun p => { p with pipeline := p.pipeline.withSettingsLock l }

/-- Does one thing after another, each with the lock of the settings in
some state. -/
def runAmid (a : Arithmetic ν) (stamp : UInt64 → String) (turns : List (Lock × Action))
    (g : Agent ν) : Agent ν :=
  turns.foldl (fun g turn => (g.withSettingsLock turn.1).perform a stamp turn.2) g

/-- The agent with the rate and the interval of a configuration, in its
settings, its gauges and its own configuration. All else is as it
was. -/
def taking (a : Arithmetic ν) (g : Agent ν) (c : Config) : Agent ν where
  config := { g.config with rate := c.rate, interval := c.interval }
  metrics := { g.metrics with
    sampleRate := a.ofNat c.rate.toNat
    interval := a.seconds c.interval }
  parts := g.parts.map fun p => { p with
    pipeline := { p.pipeline with
      settings := p.pipeline.settings.taking c.rate c.interval } }
  stopped := g.stopped

/-- What agrees in a running agent. -/
structure InStep (a : Arithmetic ν) (g : Agent ν) (p : Parts) : Prop where
  parts_eq : g.parts = some p
  rate_eq : p.pipeline.settings.rate = g.config.rate
  interval_eq : p.pipeline.settings.interval = g.config.interval.saturated
  shownRate_eq : g.metrics.sampleRate = a.ofNat g.config.rate.toNat
  shownInterval_eq : g.metrics.interval = a.seconds g.config.interval
  /-- an attempt at the lock of the settings is allowed -/
  attempts_pos : 0 < p.pipeline.settings.attempts
  allowed : p.pipeline.settings.Allows g.config.interval
  /-- the configuration is valid with any interval that may come -/
  valid_with : ∀ interval, p.pipeline.settings.Allows interval →
    { g.config with interval := interval }.validate = .ok ()

variable (a : Arithmetic ν) (stamp : UInt64 → String) {g h : Agent ν} {p q : Parts}

/-- An action that is no reload leaves the settings, the gauges and the
configuration alone. -/
theorem perform_cases (hparts : g.parts = some p) (x : Action) :
    (∃ c, x = .reload c) ∨
    ∃ q, (g.perform a stamp x).parts = some q ∧ q.pipeline.settings = p.pipeline.settings ∧
      (g.perform a stamp x).config = g.config ∧
      (g.perform a stamp x).metrics.sampleRate = g.metrics.sampleRate ∧
      (g.perform a stamp x).metrics.interval = g.metrics.interval := by
  by_cases hx : ∃ c, x = .reload c
  · exact .inl hx
  · have hx : ∀ c, x ≠ .reload c := fun c he => hx ⟨c, he⟩
    have hafter := parts_perform a stamp g x
    rw [hparts, Option.map_some] at hafter
    refine .inr ⟨_, hafter, p.settings_after stamp hx, ?_⟩
    cases x with
    | reload c => exact absurd rfl (hx c)
    | print =>
      rw [perform, print, hparts, Option.map_some]
      -- A record that was printed is also counted.
      rcases p.print stamp with ⟨_ | _, q⟩ <;> exact ⟨rfl, rfl, rfl⟩
    | report =>
      rw [perform, report, hparts]
      dsimp only
      split <;> exact ⟨rfl, rfl, rfl⟩
    | _ => exact ⟨rfl, rfl, rfl⟩

/-! ### One reload -/

/-- Where the settings refuse, nothing happens. -/
theorem reload_of_refused (hparts : g.parts = some p) {c : Config} {e : SettingsError}
    (h : p.pipeline.settings.update c.rate c.interval = (.error e, p.pipeline.settings)) :
    g.reload a c = (.error e, g) := by
  have hupdate : p.pipeline.update c.rate c.interval = (.error e, p.pipeline) := by
    rw [Pipeline.update, h]
  rw [reload, hparts]
  dsimp only
  rw [hupdate]
  dsimp only
  rw [← hparts]

/-- A reload is refused and changes nothing, or it takes over the rate
and the interval. -/
theorem reload_cases (hparts : g.parts = some p) (c : Config) :
    (¬ (p.pipeline.settings.Allows c.interval ∧ p.pipeline.settings.Lockable) ∧
      ∃ e, g.reload a c = (.error e, g)) ∨
    ((p.pipeline.settings.Allows c.interval ∧ p.pipeline.settings.Lockable) ∧
      g.reload a c = (.ok (), g.taking a c)) := by
  rcases p.pipeline.settings.update_cases c.rate c.interval with
    ⟨hallows, he⟩ | ⟨-, hlock, he⟩ | ⟨hallows, hlock, he⟩
  · exact .inl ⟨fun h => hallows h.1, _, reload_of_refused a hparts he⟩
  · exact .inl ⟨fun h => hlock h.2, _, reload_of_refused a hparts he⟩
  · refine .inr ⟨⟨hallows, hlock⟩, ?_⟩
    have hupdate : p.pipeline.update c.rate c.interval = (.ok (), { p.pipeline with
        settings := p.pipeline.settings.taking c.rate c.interval }) := by
      rw [Pipeline.update, he]
    rw [reload, taking, hparts]
    dsimp only
    rw [hupdate]
    rfl

/-- A reload that fails changes nothing. -/
theorem reload_of_error (hparts : g.parts = some p) {c : Config} {e : SettingsError}
    (h : (g.reload a c).1 = .error e) : (g.reload a c).2 = g := by
  rcases reload_cases a hparts c with ⟨-, e', he⟩ | ⟨-, he⟩
  · rw [he]
  · rw [he] at h
    cases h

/-- A reload that succeeds takes over the rate and the interval. -/
theorem reload_of_ok (hparts : g.parts = some p) {c : Config}
    (h : (g.reload a c).1 = .ok ()) : (g.reload a c).2 = g.taking a c := by
  rcases reload_cases a hparts c with ⟨-, e, he⟩ | ⟨-, he⟩
  · rw [he] at h
    cases h
  · rw [he]

/-- A reload succeeds if and only if the settings allow the interval and
their lock is to be had. -/
theorem reload_eq_ok_iff (hparts : g.parts = some p) (c : Config) :
    (g.reload a c).1 = .ok () ↔
      p.pipeline.settings.Allows c.interval ∧ p.pipeline.settings.Lockable := by
  rcases reload_cases a hparts c with ⟨hno, e, he⟩ | ⟨hyes, he⟩ <;> rw [he]
  · exact ⟨fun h => (nomatch h), fun h => absurd h hno⟩
  · exact ⟨fun _ => hyes, fun _ => rfl⟩

/-! ### The invariant -/

namespace InStep

variable {a}

/-- An agent starts in step. -/
theorem of_start {w : Surroundings} (hvalid : g.config.validate = .ok ())
    (hstart : (g.start a w).1 = .ok ()) :
    ∃ p, (g.start a w).2.InStep a p ∧ p.pipeline.settings.available = g.config.isAggregating := by
  obtain ⟨source, hstarted⟩ := start_of_ok a hstart
  rw [hstarted]
  have hworks := Pipeline.works_new g.config (g.config.cpus.getD w.cores)
  have hsettings : (Pipeline.new g.config (g.config.cpus.getD w.cores)).settings
      = .initial g.config.rate g.config.interval g.config.attempts := Pipeline.settings_new ..
  -- Parts that come to rest at once have the same settings.
  have hkept : ∀ q : Parts, ((if g.stopped then atRest else id) q).pipeline.settings
      = q.pipeline.settings := by
    intro q
    split <;> rfl
  refine ⟨_, ⟨rfl, ?_, ?_, rfl, rfl, ?_, ?_, ?_⟩, ?_⟩ <;>
    rw [hkept] <;> dsimp only [firstParts]
  · rw [hsettings]
    rfl
  · rw [hsettings]
    rfl
  · rw [hsettings]
    exact Config.attempts_pos hvalid
  · rw [Settings.Allows, hworks.available_eq, g.config.isAggregating_iff]
    exact Decidable.em _
  · intro interval hallows
    rw [Settings.Allows, hworks.available_eq, g.config.isAggregating_iff] at hallows
    exact Config.validate_withInterval hvalid hallows
  · exact hworks.available_eq

/-- The running configuration is valid. -/
theorem valid (h : g.InStep a p) : g.config.validate = .ok () :=
  h.valid_with g.config.interval h.allowed

/-- It does not matter who holds the lock of the settings. -/
theorem withSettingsLock (h : g.InStep a p) (l : Lock) :
    (g.withSettingsLock l).InStep a { p with pipeline := p.pipeline.withSettingsLock l } where
  parts_eq := by
    rw [Agent.withSettingsLock, withParts, h.parts_eq]
    rfl
  rate_eq := h.rate_eq
  interval_eq := h.interval_eq
  shownRate_eq := h.shownRate_eq
  shownInterval_eq := h.shownInterval_eq
  attempts_pos := h.attempts_pos
  allowed := h.allowed
  valid_with := h.valid_with

/-- A configuration with an interval that the settings may take can be
taken over. -/
theorem taking (h : g.InStep a p) {c : Config} (hallows : p.pipeline.settings.Allows c.interval) :
    (g.taking a c).InStep a { p with
      pipeline := { p.pipeline with
        settings := p.pipeline.settings.taking c.rate c.interval } } where
  parts_eq := by
    rw [Agent.taking, h.parts_eq]
    rfl
  rate_eq := rfl
  interval_eq := rfl
  shownRate_eq := rfl
  shownInterval_eq := rfl
  attempts_pos := h.attempts_pos
  allowed := hallows
  -- All but the rate and the interval is kept, and any rate is valid.
  valid_with := h.valid_with

/-- A reload keeps all in step, whether it succeeds or fails. -/
theorem reload (h : g.InStep a p) (c : Config) :
    ∃ q, (g.reload a c).2.InStep a q ∧
      q.pipeline.settings.available = p.pipeline.settings.available := by
  rcases reload_cases a h.parts_eq c with ⟨-, e, he⟩ | ⟨⟨hallows, -⟩, he⟩ <;> rw [he]
  · exact ⟨p, h, rfl⟩
  · exact ⟨_, h.taking hallows, rfl⟩

/-- Agents with the same settings, gauges and configuration are in step
together. -/
theorem congr (h : g.InStep a p) {k : Agent ν} (hparts : k.parts = some q)
    (hsettings : q.pipeline.settings = p.pipeline.settings) (hconfig : k.config = g.config)
    (hrate : k.metrics.sampleRate = g.metrics.sampleRate)
    (hinterval : k.metrics.interval = g.metrics.interval) : k.InStep a q where
  parts_eq := hparts
  rate_eq := by
    rw [hsettings, hconfig]
    exact h.rate_eq
  interval_eq := by
    rw [hsettings, hconfig]
    exact h.interval_eq
  shownRate_eq := by
    rw [hrate, hconfig]
    exact h.shownRate_eq
  shownInterval_eq := by
    rw [hinterval, hconfig]
    exact h.shownInterval_eq
  attempts_pos := by
    rw [hsettings]
    exact h.attempts_pos
  allowed := by
    rw [hsettings, hconfig]
    exact h.allowed
  valid_with := by
    rw [hsettings, hconfig]
    exact h.valid_with

/-- Any action keeps the agent in step. -/
theorem perform (h : g.InStep a p) (x : Action) :
    ∃ q, (g.perform a stamp x).InStep a q ∧
      q.pipeline.settings.available = p.pipeline.settings.available := by
  rcases perform_cases a stamp h.parts_eq x with
    ⟨c, rfl⟩ | ⟨q, hparts, hsettings, hconfig, hrate, hinterval⟩
  · exact h.reload c
  · exact ⟨q, h.congr hparts hsettings hconfig hrate hinterval,
      congrArg Settings.available hsettings⟩

/-- The agent stays in step after any actions, in whatever state each finds
the lock of the settings. -/
theorem runAmid (h : g.InStep a p) (turns : List (Lock × Action)) :
    ∃ q, (g.runAmid a stamp turns).InStep a q ∧
      q.pipeline.settings.available = p.pipeline.settings.available := by
  induction turns generalizing g p with
  | nil => exact ⟨p, h, rfl⟩
  | cons turn turns ih =>
    obtain ⟨q, hq, havailable⟩ := (h.withSettingsLock turn.1).perform stamp turn.2
    obtain ⟨r, hr, hrest⟩ := ih hq
    exact ⟨r, hr, hrest.trans havailable⟩

end InStep

/-- An agent that was started with a valid configuration, and anything
that it does from then on, reloads among it, each in whatever state it
finds the lock of the settings.

The rate and the interval in the settings, in the gauges and in the
configuration agree, where the settings hold the interval as a word, and
the configuration is valid. A reload that fails changes nothing; one
that succeeds changes the rate and the interval in these three places,
and nothing else. It succeeds if and only if the lock is to be had and
the new configuration does not turn on aggregation for an agent that was
started without. -/
theorem reload_all_or_nothing (g : Agent ν) (w : Surroundings)
    (hvalid : g.config.validate = .ok ()) (hstart : (g.start a w).1 = .ok ())
    (turns : List (Lock × Action)) :
    let h := (g.start a w).2.runAmid a stamp turns
    (∃ p, h.parts = some p ∧ p.pipeline.settings.rate = h.config.rate ∧
      p.pipeline.settings.interval = h.config.interval.saturated) ∧
    h.metrics.sampleRate = a.ofNat h.config.rate.toNat ∧
    h.metrics.interval = a.seconds h.config.interval ∧
    h.config.validate = .ok () ∧
    ∀ lock c,
      let before := h.withSettingsLock lock
      let result := (before.reload a c).1
      let next := (before.reload a c).2
      (∀ e, result = .error e → next = before) ∧
      (result = .ok () → next = before.taking a c) ∧
      (result = .ok () ↔
        (c.interval = .zero ∨ g.config.interval ≠ .zero) ∧ lock = .free) := by
  intro h
  obtain ⟨p₀, hbegin, hstarted⟩ := InStep.of_start hvalid hstart
  obtain ⟨p, hp, havailable⟩ := hbegin.runAmid stamp turns
  refine ⟨⟨p, hp.parts_eq, hp.rate_eq, hp.interval_eq⟩, hp.shownRate_eq, hp.shownInterval_eq,
    hp.valid, fun lock c => ?_⟩
  intro before result next
  -- Any state of the lock leaves the agent in step, so the cases of a reload apply.
  have hbefore : before.InStep a _ := hp.withSettingsLock lock
  refine ⟨fun e => reload_of_error a hbefore.parts_eq, reload_of_ok a hbefore.parts_eq, ?_⟩
  have hallows : p.pipeline.settings.Allows c.interval ↔
      c.interval = .zero ∨ g.config.interval ≠ .zero := by
    rw [Settings.Allows, havailable, hstarted, g.config.isAggregating_iff]
  rw [← hallows]
  refine (reload_eq_ok_iff a hbefore.parts_eq c).trans ?_
  exact and_congr Iff.rfl ⟨fun hlock => hlock.1, fun hlock => ⟨hlock, hp.attempts_pos⟩⟩

/-- The interval is turned off with a configuration that has no room in
its stores, a reload meets a held lock, a match is delivered, and the
interval is turned on again. -/
theorem reload_all_or_nothing_off_and_on :
    let c : Config := { Config.standard with healthAddress := "" }
    let w : Surroundings := ⟨0, 1, fun _ => true, fun _ => true, fun _ => none⟩
    let off : Config := { c with rate := 4, interval := .zero, storeCapacity := 0 }
    let on : Config := { c with interval := .ofMillis 250 }
    let turns : List (Lock × Action) :=
      [(.free, .reload off), (⟨true⟩, .reload on), (.free, .deliver 5 0), (.free, .reload on)]
    let stamp : UInt64 → String := fun _ => ""
    let g := (Agent.new .exact c).start .exact w
    let between := g.2.runAmid .exact stamp (turns.take 3)
    let h := g.2.runAmid .exact stamp turns
    c.validate = .ok () ∧ off.validate = .ok () ∧ on.validate = .ok () ∧ g.1 = .ok () ∧
    between.config.interval = .zero ∧ between.config.storeCapacity = 4096 ∧
    h.config.validate = .ok () ∧ h.config.interval = .ofMillis 250 ∧
    h.metrics.interval = 1 / 4 ∧
    (∃ p, h.parts = some p ∧ p.pipeline.settings.interval = 250000000) := by
  intro c w off on turns stamp g between h
  have hvalid : c.validate = .ok () := rfl
  have hstart : g.1 = .ok () := rfl
  have hinterval : h.config.interval = .ofMillis 250 := rfl
  obtain ⟨⟨p, hp, -, hword⟩, -, hshown, hkept, -⟩ :=
    reload_all_or_nothing .exact stamp (Agent.new .exact c) w hvalid hstart turns
  refine ⟨hvalid, rfl, rfl, hstart, rfl, rfl, hkept, hinterval, ?_, p, hp, ?_⟩
  · exact hshown.trans (by rw [hinterval]; decide +kernel)
  · exact hword.trans (by rw [hinterval]; decide +kernel)

end Agent

end RuleTrace
