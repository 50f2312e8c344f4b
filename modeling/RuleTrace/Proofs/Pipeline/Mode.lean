import RuleTrace.Proofs.Config
import RuleTrace.Proofs.Pipeline.Drain

/-!
# `RuleTrace.Proofs.Pipeline.Mode`: to aggregate or not

The interval with which a pipeline starts decides once and for all
whether it has slots, how its lanes are laid out, and whether its
settings may ever name an interval again. These facts are stored in
different places: a span of any length, a word of nanoseconds, a flag,
the slots, the mode of the channel. `Pipeline.Works` says that they
agree, and every operation preserves it (`Works.after`).

Settings change under a lock that others may hold. So a run here is a
list of operations that each find the lock in some state
(`afterAmid`). `Settings.update_cases` says all that an update can do:
it is refused for one of two reasons and leaves no trace, or it sets
both the rate and the interval.

Without slots no notification is aggregated, and the counters that tell
of aggregation (`Counter.ofSlots`) never move.
-/

set_option autoImplicit false

namespace RuleTrace

/-- Only the empty span is zero as a word: a span that is too long
saturates and does not wrap. -/
theorem Span.saturated_eq_zero_iff (d : Span) : d.saturated = 0 ↔ d = .zero := by
  have hword : d.saturated = 0 ↔ d.nanos = 0 := by
    rw [← UInt64.toNat_inj, saturated]
    split
    · rename_i h
      rw [UInt64.toNat_ofNat', Nat.mod_eq_of_lt h]
      rfl
    · -- A span that does not fit is the greatest word, and is not empty either.
      rename_i h
      refine ⟨fun h' => absurd h' (by decide), fun h' => absurd h ?_⟩
      rw [h']
      decide
  rw [hword]
  exact ⟨fun h => congrArg Span.mk h, fun h => congrArg Span.nanos h⟩

/-- The shortest span that a word cannot hold. -/
example : Span.saturated ⟨UInt64.size⟩ ≠ 0 := by decide

/-! ### Updates of the settings -/

namespace Settings

/-- The settings with another rate and another interval. -/
def taking (s : Settings) (rate : UInt64) (interval : Span) : Settings :=
  { s with rate := rate, interval := interval.saturated }

/-- Whether an interval asks for no more than the stores that there
are. -/
def Allows (s : Settings) (interval : Span) : Prop := interval = .zero ∨ s.available = true

/-- Whether the lock can be had. -/
def Lockable (s : Settings) : Prop := s.lock = .free ∧ 0 < s.attempts

/-- An update asks for stores that there are not, or does not get the
lock, or sets the rate and the interval. It never leaves the lock in
another state than it found it in. -/
theorem update_cases (s : Settings) (rate : UInt64) (interval : Span) :
    (¬ s.Allows interval ∧ s.update rate interval = (.error .aggregationUnavailable, s)) ∨
    (s.Allows interval ∧ ¬ s.Lockable ∧
      s.update rate interval = (.error (.contended ⟨s.attempts⟩), s)) ∨
    (s.Allows interval ∧ s.Lockable ∧
      s.update rate interval = (.ok (), s.taking rate interval)) := by
  have hasks : (interval.saturated ≠ 0 ∧ s.available = false) ↔ ¬ s.Allows interval := by
    rw [Allows, not_or, Bool.not_eq_true, Ne, interval.saturated_eq_zero_iff]
  by_cases hallows : s.Allows interval
  · have hgoes : ¬ (interval.saturated ≠ 0 ∧ s.available = false) := fun h =>
      hasks.mp h hallows
    by_cases hlock : 0 < s.attempts ∧ s.lock.held = false
    · have hfree : s.lock = .free := congrArg Lock.mk hlock.2
      have hacquire : s.lock.acquire s.attempts = .ok ⟨true⟩ := if_pos hlock
      refine .inr (.inr ⟨hallows, ⟨hfree, hlock.1⟩, ?_⟩)
      simp only [update, if_neg hgoes, hacquire, taking]
      -- The lock is given back, so it is as free as it was.
      rw [Lock.release, ← hfree]
    · have hacquire : s.lock.acquire s.attempts = .error ⟨s.attempts⟩ := if_neg hlock
      refine .inr (.inl ⟨hallows, fun h => hlock ⟨h.2, congrArg Lock.held h.1⟩, ?_⟩)
      simp only [update, if_neg hgoes, hacquire]
  · exact .inl ⟨hallows, if_pos (hasks.mpr hallows)⟩

/-- An update that fails changes nothing. -/
theorem update_of_error {s : Settings} {rate : UInt64} {interval : Span} {e : SettingsError}
    (h : (s.update rate interval).1 = .error e) : (s.update rate interval).2 = s := by
  rcases s.update_cases rate interval with ⟨-, he⟩ | ⟨-, -, he⟩ | ⟨-, -, he⟩
  · rw [he]
  · rw [he]
  · rw [he] at h
    cases h

/-- An update that succeeds sets the rate and the interval and nothing
else. -/
theorem update_of_ok {s : Settings} {rate : UInt64} {interval : Span}
    (h : (s.update rate interval).1 = .ok ()) :
    (s.update rate interval).2 = s.taking rate interval := by
  rcases s.update_cases rate interval with ⟨-, he⟩ | ⟨-, -, he⟩ | ⟨-, -, he⟩
  · rw [he] at h
    cases h
  · rw [he] at h
    cases h
  · rw [he]

/-- An update succeeds if and only if it asks for stores that there are, or
for none, and the lock is to be had. -/
theorem update_eq_ok_iff (s : Settings) (rate : UInt64) (interval : Span) :
    (s.update rate interval).1 = .ok () ↔ s.Allows interval ∧ s.Lockable := by
  rcases s.update_cases rate interval with
    ⟨hallows, he⟩ | ⟨hallows, hlockable, he⟩ | ⟨hallows, hlockable, he⟩ <;> rw [he]
  · exact ⟨fun h => (nomatch h), fun h => absurd h.1 hallows⟩
  · exact ⟨fun h => (nomatch h), fun h => absurd h.2 hlockable⟩
  · exact ⟨fun _ => ⟨hallows, hlockable⟩, fun _ => rfl⟩

/-- An update is refused for want of stores if and only if it asks for
stores that there are not. -/
theorem update_eq_unavailable_iff (s : Settings) (rate : UInt64) (interval : Span) :
    (s.update rate interval).1 = .error .aggregationUnavailable ↔ ¬ s.Allows interval := by
  rcases s.update_cases rate interval with
    ⟨hallows, he⟩ | ⟨hallows, -, he⟩ | ⟨hallows, -, he⟩ <;> rw [he]
  · exact ⟨fun _ => hallows, fun _ => rfl⟩
  · exact ⟨fun h => (nomatch h), fun h => absurd hallows h⟩
  · exact ⟨fun h => (nomatch h), fun h => absurd hallows h⟩

/-- What an update never changes. -/
theorem available_update (s : Settings) (rate : UInt64) (interval : Span) :
    (s.update rate interval).2.available = s.available ∧
      (s.update rate interval).2.attempts = s.attempts := by
  rcases s.update_cases rate interval with ⟨-, he⟩ | ⟨-, -, he⟩ | ⟨-, -, he⟩ <;> rw [he] <;>
    exact ⟨rfl, rfl⟩

/-- The interval that an update leaves is not zero only if there are
stores. -/
theorem available_of_enabled_update {s : Settings} (h : s.enabled = true → s.available = true)
    (rate : UInt64) (interval : Span) :
    (s.update rate interval).2.enabled = true → s.available = true := by
  rcases s.update_cases rate interval with ⟨-, he⟩ | ⟨-, -, he⟩ | ⟨hallows, -, he⟩ <;> rw [he]
  · exact h
  · exact h
  · intro henabled
    refine hallows.resolve_left fun hzero => ?_
    rw [enabled, taking, bne_iff_ne] at henabled
    exact henabled ((interval.saturated_eq_zero_iff).mpr hzero)

end Settings

/-- The counters that move only where there are slots. -/
def Counter.ofSlots : List Counter :=
  [.aggregated, .merged, .flushed, .flushMiss, .writeWait, .readWait, .lockContended]

namespace Pipeline

/-! ### Runs in which the settings are locked by others -/

/-- The pipeline while the lock of its settings is in a given state:
held by someone else, or free. -/
def withSettingsLock (p : Pipeline) (l : Lock) : Pipeline :=
  { p with settings := { p.settings with lock := l } }

/-- The pipeline after operations that each find the lock of the
settings in some state. -/
def afterAmid (p : Pipeline) (turns : List (Lock × Operation)) : Pipeline :=
  turns.foldl (fun p turn => (p.withSettingsLock turn.1).after turn.2) p

/-! ### What operations do to the settings -/

/-- Passes do not touch the settings. -/
theorem settings_flushAll (p : Pipeline) (cores : List Nat) :
    (p.flushAll cores).settings = p.settings := by
  induction cores generalizing p with
  | nil => rfl
  | cons core cores ih => exact (ih _).trans (onlyOn_flushCore p core).settings_eq

/-- The settings change by updates only. -/
theorem settings_after (p : Pipeline) (op : Operation) :
    (p.after op).settings = p.settings ∨
    ∃ rate interval, (p.after op).settings = (p.settings.update rate interval).2 := by
  cases op with
  | trace core n now => exact .inl (onlyOn_trace p core n now).settings_eq
  | flushCore core => exact .inl (onlyOn_flushCore p core).settings_eq
  | drainAll =>
    rw [after, drainAll_eq_flushAll]
    -- Draining is passes, which do not touch the settings.
    exact .inl (settings_flushAll p p.passes)
  | update rate interval => exact .inr ⟨rate, interval, rfl⟩
  | tryReceive =>
    rw [after, tryReceive?]
    cases p.outlet.channel.tryReceive? <;> exact .inl rfl
  | poll =>
    rw [after, poll]
    cases p.outlet.channel.poll <;> exact .inl rfl
  | receiveAll => exact .inl rfl
  | close => exact .inl rfl

/-! ### Notifications -/

/-- A record that goes straight to the output is not aggregated. -/
theorem outcome_emitDirect (p : Pipeline) (core : Nat) (r : Record) :
    (p.emitDirect core r).1 = .emitted ∨ (p.emitDirect core r).1 = .dropped := by
  rcases p.emitDirect_cases core r with ⟨d, -, he⟩ | he <;> rw [he]
  · exact .inl rfl
  · exact .inr rfl

/-- While the interval is zero, a record goes straight to the output. -/
theorem deliver_of_not_enabled (p : Pipeline) (h : p.settings.enabled = false) (core : Nat)
    (r : Record) : p.deliver core r = p.emitDirect core r := by
  rw [deliver]
  cases p.slots with
  | none => rfl
  | some a => simp only [h, Bool.false_eq_true, if_false]

/-- Only while the interval is not zero is a notification aggregated. -/
theorem enabled_of_outcome_trace {p : Pipeline} {core : Nat} {n : Notification} {now : UInt64}
    (h : (p.trace core n now).1 = .aggregated ∨ (p.trace core n now).1 = .merged) :
    p.settings.enabled = true := by
  cases henabled : p.settings.enabled with
  | true => rfl
  | false =>
    -- Whatever is kept of the notifications then goes straight to the output.
    have hdeliver := p.sampled.deliver_of_not_enabled henabled core (n.toRecord now)
    rw [trace_eq, hdeliver] at h
    split at h
    · simp at h
    · split at h
      · rcases p.sampled.outcome_emitDirect core (n.toRecord now) with he | he <;> simp [he] at h
      · simp at h

/-! ### Counters without slots -/

/-- A counter that does not tell of slots leaves those that do. -/
theorem get_bump_of_mem_ofSlots {k j : Counter} (p : Pipeline) (hk : k ∈ Counter.ofSlots)
    (hj : j ∉ Counter.ofSlots) : (p.bump j).counters.get k = p.counters.get k := by
  have hne : j ≠ k := fun h => hj (h ▸ hk)
  exact Counters.get_add_of_ne _ _ hne

/-- Without slots, the counters that tell of slots stand still. -/
theorem counters_trace_of_slots_eq_none {p : Pipeline} (h : p.slots = none) {k : Counter}
    (hk : k ∈ Counter.ofSlots) (core : Nat) (n : Notification) (now : UInt64) :
    (p.trace core n now).2.counters.get k = p.counters.get k := by
  have hsampled : p.sampled.counters.get k = p.counters.get k :=
    p.get_bump_of_mem_ofSlots hk (j := .packetsSeen) (by decide)
  -- Without slots a record that is kept can only go straight to the output.
  have hdeliver : ∀ r, p.sampled.deliver core r = p.sampled.emitDirect core r := by
    intro r
    rw [deliver, show p.sampled.slots = none from h]
  rw [trace_eq]
  split
  · exact p.get_bump_of_mem_ofSlots hk (by decide)
  · split
    · rw [hdeliver]
      rcases p.sampled.emitDirect_cases core (n.toRecord now) with ⟨d, -, he⟩ | he <;> rw [he]
      · exact ((p.sampled.withChannel d).get_bump_of_mem_ofSlots hk (by decide)).trans hsampled
      · exact (p.sampled.get_bump_of_mem_ofSlots hk (by decide)).trans hsampled
    · exact (p.sampled.get_bump_of_mem_ofSlots hk (by decide)).trans hsampled

/-- Without slots there is nothing to flush. -/
theorem flushAll_of_slots_eq_none {p : Pipeline} (h : p.slots = none) (cores : List Nat) :
    p.flushAll cores = p := by
  induction cores with
  | nil => rfl
  | cons core cores ih =>
    have hcore : (p.flushCore core).2 = p := by rw [flushCore, h]
    show (p.flushCore core).2.flushAll cores = p
    rw [hcore, ih]

/-- Without slots no operation moves the counters that tell of slots. -/
theorem counters_after_of_slots_eq_none {p : Pipeline} (h : p.slots = none) {k : Counter}
    (hk : k ∈ Counter.ofSlots) (op : Operation) :
    (p.after op).counters.get k = p.counters.get k := by
  rcases p.after_cases op with ⟨core, n, now, he⟩ | ⟨cores, he⟩ | ⟨s, c, -, he⟩ <;> rw [he]
  · exact counters_trace_of_slots_eq_none h hk core n now
  · rw [flushAll_of_slots_eq_none h]
  · rfl

/-! ### The invariant -/

/-- All places where it is stored whether a pipeline aggregates agree. -/
structure Works (aggregating : Bool) (attempts : Nat) (p : Pipeline) : Prop where
  mode_eq : p.mode = if aggregating then .multiplexed else .direct
  slots_eq : p.slots.isSome = aggregating
  available_eq : p.settings.available = aggregating
  attempts_eq : p.settings.attempts = attempts
  enabled_only : p.settings.enabled = true → p.settings.available = true
  idle : p.slots = none → ∀ k ∈ Counter.ofSlots, p.counters.get k = 0

/-- A new pipeline has the settings of its configuration. -/
theorem settings_new (c : Config) (cores : Nat) :
    (new c cores).settings = .initial c.rate c.interval c.attempts := by
  rw [new]
  cases c.isAggregating <;> rfl

/-- In a new pipeline all places agree, for each looks at the same interval. -/
theorem works_new (c : Config) (cores : Nat) :
    (new c cores).Works c.isAggregating c.attempts := by
  have hsettings := settings_new c cores
  have hcounters := counters_new c cores
  refine ⟨?_, ?_, ?_, ?_, ?_, ?_⟩
  · rw [new]
    cases c.isAggregating <;> rfl
  · rw [new]
    cases c.isAggregating <;> rfl
  · rw [hsettings, Bool.eq_iff_iff, c.isAggregating_iff, Settings.initial, bne_iff_ne, Ne,
      c.interval.saturated_eq_zero_iff]
  · rw [hsettings]
    rfl
  · -- At the start both are the same question about the first interval.
    rw [hsettings]
    exact id
  · intro _ k _
    rw [hcounters]
    cases k <;> rfl

namespace Works

variable {aggregating : Bool} {attempts : Nat} {p : Pipeline} (h : p.Works aggregating attempts)
include h

/-- It does not matter who holds the lock of the settings. -/
theorem withSettingsLock (l : Lock) : (p.withSettingsLock l).Works aggregating attempts :=
  ⟨h.mode_eq, h.slots_eq, h.available_eq, h.attempts_eq, h.enabled_only, h.idle⟩

/-- No operation makes two of the places disagree. -/
theorem after (op : Operation) : (p.after op).Works aggregating attempts := by
  have hslots : (p.after op).slots.isSome = p.slots.isSome := by
    -- The limits never change, and they tell whether there are slots.
    have hlimits := congrArg (fun limits => limits.2.isSome) (p.limits_after op)
    simpa only [limits, Option.isSome_map] using hlimits
  have hsettings : (p.after op).settings.available = p.settings.available ∧
      (p.after op).settings.attempts = p.settings.attempts ∧
      ((p.after op).settings.enabled = true → p.settings.available = true) := by
    rcases p.settings_after op with he | ⟨rate, interval, he⟩ <;> rw [he]
    · exact ⟨rfl, rfl, h.enabled_only⟩
    · obtain ⟨havailable, hattempts⟩ := p.settings.available_update rate interval
      exact ⟨havailable, hattempts,
        Settings.available_of_enabled_update h.enabled_only rate interval⟩
  obtain ⟨havailable, hattempts, henabled⟩ := hsettings
  refine ⟨?_, hslots.trans h.slots_eq, havailable.trans h.available_eq,
    hattempts.trans h.attempts_eq, fun he => havailable.trans (henabled he), fun hnone => ?_⟩
  · exact (Prod.mk.inj (p.shape_after op)).1.trans h.mode_eq
  · -- A pipeline that has no slots had none before.
    have hbefore : p.slots = none := by
      cases hp : p.slots with
      | none => rfl
      | some a =>
        rw [hnone, hp] at hslots
        cases hslots
    intro k hk
    rw [counters_after_of_slots_eq_none hbefore hk op, h.idle hbefore k hk]

/-- The places agree after any run, whoever holds the lock of the settings
in between. -/
theorem afterAmid (turns : List (Lock × Operation)) :
    (p.afterAmid turns).Works aggregating attempts := by
  induction turns generalizing p with
  | nil => exact h
  | cons turn turns ih => exact ih ((h.withSettingsLock turn.1).after turn.2)

/-- The mode is that of lanes for each core if and only if the pipeline
aggregates. -/
theorem mode_eq_multiplexed_iff : p.mode = .multiplexed ↔ aggregating = true := by
  rw [h.mode_eq]
  cases aggregating <;> simp

/-- The mode is direct if and only if the pipeline does not aggregate. -/
theorem mode_eq_direct_iff : p.mode = .direct ↔ ¬ aggregating = true := by
  rw [h.mode_eq]
  cases aggregating <;> simp

/-- The settings may name an interval in multiplexed mode only. -/
theorem allows_iff (interval : Span) :
    p.settings.Allows interval ↔ interval = .zero ∨ p.mode = .multiplexed := by
  rw [Settings.Allows, h.available_eq, h.mode_eq_multiplexed_iff]

/-- A pipeline in direct mode never aggregates. -/
theorem outcome_of_direct (hdirect : p.mode = .direct) (core : Nat) (n : Notification)
    (now : UInt64) :
    (p.trace core n now).1 ≠ .aggregated ∧ (p.trace core n now).1 ≠ .merged := by
  have hnever : ¬ ((p.trace core n now).1 = .aggregated ∨ (p.trace core n now).1 = .merged) :=
    fun houtcome => h.mode_eq_direct_iff.mp hdirect
      (h.available_eq ▸ h.enabled_only (enabled_of_outcome_trace houtcome))
  exact not_or.mp hnever

/-- In direct mode there are no slots. -/
theorem slots_of_direct (hdirect : p.mode = .direct) : p.slots = none := by
  cases hslots : p.slots with
  | none => rfl
  | some a =>
    refine absurd ?_ (h.mode_eq_direct_iff.mp hdirect)
    rw [← h.slots_eq, hslots]
    rfl

end Works

/-- An update that fails changes nothing at all. -/
theorem update_of_error {p : Pipeline} {rate : UInt64} {interval : Span} {e : SettingsError}
    (h : (p.update rate interval).1 = .error e) : (p.update rate interval).2 = p :=
  congrArg (fun s => { p with settings := s }) (Settings.update_of_error h)

/-- An update that succeeds changes the rate and the interval only. -/
theorem update_of_ok {p : Pipeline} {rate : UInt64} {interval : Span}
    (h : (p.update rate interval).1 = .ok ()) :
    (p.update rate interval).2 = { p with settings := p.settings.taking rate interval } :=
  congrArg (fun s => { p with settings := s }) (Settings.update_of_ok h)

/-- Any configuration, and anything done with the pipeline, in whatever
state each operation finds the lock of the settings.

The interval of the configuration, however short or long, decides on the
mode, on whether there are slots and on whether the settings may name an
interval; and while they name one, they may. An update is refused for
want of slots if and only if it names an interval in direct mode, and it
succeeds if and only if it does not and the lock is to be had. One that
is refused changes nothing; one that succeeds sets the rate and the
interval. Matches are aggregated only while the interval is not zero. In
direct mode they never are, and no counter that tells of slots has
moved. -/
theorem mode_fixed_from_start (c : Config) (cores : Nat) (turns : List (Lock × Operation)) :
    let p := (new c cores).afterAmid turns
    (p.mode = .multiplexed ↔ c.interval ≠ .zero) ∧
    (p.slots.isSome = true ↔ c.interval ≠ .zero) ∧
    (p.settings.available = true ↔ c.interval ≠ .zero) ∧
    (p.settings.enabled = true → p.settings.available = true) ∧
    (∀ lock rate interval,
      let q := p.withSettingsLock lock
      let result := (q.update rate interval).1
      let next := (q.update rate interval).2
      (result = .error .aggregationUnavailable ↔ interval ≠ .zero ∧ p.mode = .direct) ∧
      (result = .ok () ↔
        (interval = .zero ∨ p.mode = .multiplexed) ∧ lock = .free ∧ 0 < c.attempts) ∧
      (∀ e, result = .error e → next = q) ∧
      (result = .ok () → next = { q with settings := q.settings.taking rate interval })) ∧
    (∀ core n now, (p.trace core n now).1 = .aggregated ∨ (p.trace core n now).1 = .merged →
      p.settings.interval ≠ 0) ∧
    (p.mode = .direct →
      (∀ core n now, (p.trace core n now).1 ≠ .aggregated ∧ (p.trace core n now).1 ≠ .merged) ∧
      ∀ k ∈ Counter.ofSlots, p.counters.get k = 0) := by
  intro p
  have h : p.Works c.isAggregating c.attempts := (works_new c cores).afterAmid turns
  have hinterval := c.isAggregating_iff
  refine ⟨h.mode_eq_multiplexed_iff.trans hinterval, ?_, ?_, h.enabled_only, ?_, ?_, ?_⟩
  · rw [h.slots_eq, hinterval]
  · rw [h.available_eq, hinterval]
  · intro lock rate interval q result next
    -- The invariant does not look at the lock, so it holds in the state that the update finds.
    have hq : q.Works c.isAggregating c.attempts := h.withSettingsLock lock
    have hallows : q.settings.Allows interval ↔ interval = .zero ∨ p.mode = .multiplexed :=
      hq.allows_iff interval
    refine ⟨?_, ?_, fun e => update_of_error, update_of_ok⟩
    · rw [h.mode_eq_direct_iff, ← h.mode_eq_multiplexed_iff, ← not_or, ← hallows]
      exact Settings.update_eq_unavailable_iff ..
    · rw [← hallows, ← hq.attempts_eq]
      exact Settings.update_eq_ok_iff ..
  · intro core n now houtcome
    have henabled := enabled_of_outcome_trace houtcome
    rwa [Settings.enabled, bne_iff_ne] at henabled
  · exact fun hdirect => ⟨h.outcome_of_direct hdirect, h.idle (h.slots_of_direct hdirect)⟩

end Pipeline

end RuleTrace
