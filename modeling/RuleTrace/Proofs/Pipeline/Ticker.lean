import RuleTrace.Pipeline.Ticker
import RuleTrace.Proofs.Pipeline.Mode

/-!
# `RuleTrace.Proofs.Pipeline.Ticker`: one ticker

A tick finds a ticker and a pipeline (`Tick`), makes one pass over its
core and reads the interval. `Tick.Renewed` says what becomes of the
ticker: another interval that is not zero starts it anew, and it is due
one such interval later; otherwise it is due at a later multiple of its
period.

`Ticker.Course` is a ticker over some time: tick after tick, each of
which finds it as the one before has left it. So its period is the last
interval that was read and is not zero (`Course.period_eq`), it is never
zero, and the ticker is due at multiples of it after its last start
(`Course.due_eq`).

The ticks that a ticker makes when time passes are listed by
`Ticker.ticksAt`. They are a course, in the end of which it is not due
any more, and all that they do to the pipeline is one pass each
(`tick_snd`).
-/

set_option autoImplicit false

namespace RuleTrace

/-- A tick: the ticker and the pipeline as it finds them, and the
time. -/
structure Tick where
  ticker : Ticker
  pipeline : Pipeline
  now : Nat

namespace Tick

/-- What the pass of a tick reports. -/
def report (k : Tick) : DrainReport := (k.pipeline.flushCore k.ticker.core).1

/-- The pipeline after the pass. -/
def passed (k : Tick) : Pipeline := (k.pipeline.flushCore k.ticker.core).2

/-- The interval that a tick reads. -/
def interval (k : Tick) : UInt64 := k.passed.settings.interval

/-- What becomes of the ticker. -/
structure Renewed (k : Tick) (t : Ticker) : Prop where
  core_eq : t.core = k.ticker.core
  /-- another interval that is not zero is the new period -/
  changed : k.interval ≠ 0 → k.interval.toNat ≠ k.ticker.period →
    t.period = k.interval.toNat ∧ t.due = k.now + k.interval.toNat
  /-- otherwise the ticker goes on at a multiple of its period: the next
  one, or the first that is still to come if the tick was too late -/
  kept : k.interval = 0 ∨ k.interval.toNat = k.ticker.period →
    t.period = k.ticker.period ∧
    ∃ n, 0 < n ∧ t.due = k.ticker.due + n * k.ticker.period ∧
      (k.now ≤ k.ticker.due + Ticker.tolerance → n = 1) ∧
      (k.ticker.due + Ticker.tolerance < k.now →
        k.now < t.due ∧ t.due ≤ k.now + k.ticker.period)

end Tick

/-- A timer is never early. -/
theorem le_wakeTime (moment : Nat) : moment ≤ wakeTime moment := by
  show moment ≤ (moment + 1000000 - 1) / 1000000 * 1000000
  omega

/-- An interval that is not zero is a period. -/
theorem toNat_interval_pos {interval : UInt64} (h : interval ≠ 0) : 0 < interval.toNat :=
  Nat.pos_of_ne_zero fun hnat => h (UInt64.toNat_inj.mp hnat)

namespace Ticker

/-- No ticker starts with a period of zero. -/
theorem firstPeriod_pos (interval : UInt64) : 0 < firstPeriod interval := by
  rw [firstPeriod]
  split
  · decide
  · rename_i hzero
    exact toNat_interval_pos hzero

variable {t : Ticker} {now : Nat}

/-- A ticker does not tick before it is due. -/
theorem due_le_of_isDue (h : t.isDue now = true) : t.due ≤ now :=
  Nat.le_trans (le_wakeTime t.due) (of_decide_eq_true h)

/-- A ticker that is due in the future does not tick. -/
theorem not_isDue_of_lt (h : now < t.due) : t.isDue now = false := by
  cases hdue : t.isDue now with
  | false => rfl
  | true => exact absurd (due_le_of_isDue hdue) (Nat.not_le_of_lt h)

/-- A ticker that goes on is due at a later multiple of its period. -/
theorem dueAfter_spec (hperiod : 0 < t.period) (hdue : t.due ≤ now) :
    ∃ n, 0 < n ∧ t.dueAfter now = t.due + n * t.period ∧ (now ≤ t.due + tolerance → n = 1) ∧
      (t.due + tolerance < now → now < t.dueAfter now ∧ t.dueAfter now ≤ now + t.period) := by
  rw [dueAfter]
  split
  · rename_i hlate
    exact ⟨1, Nat.zero_lt_one, by rw [Nat.one_mul], fun _ => rfl,
      fun h => absurd hlate (Nat.not_le_of_lt h)⟩
  · -- As many periods have gone by as fit into the time by which the tick is late.
    rename_i hlate
    have hmod := Nat.mod_lt (now - t.due) hperiod
    have hdiv : t.period * ((now - t.due) / t.period) + (now - t.due) % t.period = now - t.due :=
      Nat.div_add_mod _ _
    refine ⟨(now - t.due) / t.period + 1, Nat.succ_pos _, ?_, fun h => absurd h hlate,
      fun _ => ⟨by omega, Nat.sub_le _ _⟩⟩
    rw [Nat.add_mul, Nat.one_mul, Nat.mul_comm]
    omega

/-- A tick keeps the core of its ticker. -/
theorem core_afterTick (t : Ticker) (interval : UInt64) (now : Nat) :
    (t.afterTick interval now).core = t.core := by
  rw [afterTick]
  split <;> rfl

/-- What one tick makes of the ticker. -/
theorem renewed_tickOnce (hperiod : 0 < t.period) (hdue : t.isDue now = true) (p : Pipeline) :
    (⟨t, p, now⟩ : Tick).Renewed (t.tickOnce p now).1 := by
  obtain ⟨n, hn, hmultiple, hnext, hlate⟩ := dueAfter_spec hperiod (due_le_of_isDue hdue)
  show (⟨t, p, now⟩ : Tick).Renewed (t.afterTick (⟨t, p, now⟩ : Tick).interval now)
  rw [afterTick]
  split
  · rename_i hchange
    exact ⟨rfl, fun _ _ => ⟨rfl, rfl⟩,
      fun hkept => absurd hkept (not_or.mpr ⟨hchange.1, hchange.2⟩)⟩
  · rename_i hkept
    exact ⟨rfl, fun hne hother => absurd ⟨hne, hother⟩ hkept,
      fun _ => ⟨rfl, n, hn, hmultiple, hnext, hlate⟩⟩

end Ticker

namespace Tick.Renewed

variable {k : Tick} {t : Ticker} (h : k.Renewed t)
include h

/-- The period is the interval that was read unless it is zero. -/
theorem period_eq :
    t.period = if k.interval = 0 then k.ticker.period else k.interval.toNat := by
  split
  · rename_i hzero
    exact (h.kept (.inl hzero)).1
  · rename_i hzero
    by_cases hsame : k.interval.toNat = k.ticker.period
    · exact (h.kept (.inr hsame)).1.trans hsame.symm
    · exact (h.changed hzero hsame).1

/-- A tick never makes the period zero. -/
theorem period_pos (hperiod : 0 < k.ticker.period) : 0 < t.period := by
  rw [h.period_eq]
  split
  · exact hperiod
  · rename_i hzero
    exact toNat_interval_pos hzero

/-- A tick makes the ticker due later. -/
theorem due_lt (hperiod : 0 < k.ticker.period) (hdue : k.ticker.due ≤ k.now) :
    k.ticker.due < t.due := by
  by_cases hkept : k.interval = 0 ∨ k.interval.toNat = k.ticker.period
  · obtain ⟨-, n, hn, hmultiple, -⟩ := h.kept hkept
    have := Nat.mul_pos hn hperiod
    omega
  · -- The ticker starts anew, one whole period from now.
    obtain ⟨hzero, hother⟩ := not_or.mp hkept
    have hpos := h.period_pos hperiod
    obtain ⟨hperiod, hnext⟩ := h.changed hzero hother
    omega

end Tick.Renewed

namespace Ticker

/-! ### One tick after the other -/

/-- A ticker that makes ticks and is another one in the end: each tick
comes when the ticker is due and finds it as the one before has left
it. -/
inductive Course : Ticker → List Tick → Ticker → Prop where
  | rest {t : Ticker} : Course t [] t
  | tick {k : Tick} {t u : Ticker} {ticks : List Tick} (hdue : k.ticker.isDue k.now = true)
      (hnext : k.Renewed t) (hticks : Course t ticks u) : Course k.ticker (k :: ticks) u

/-- The last interval of those that were read and are not zero, or the
first period. -/
def lastPeriod (first : Nat) (ticks : List Tick) : Nat :=
  ((ticks.filter fun k => k.interval ≠ 0).getLast?.map fun k => k.interval.toNat).getD first

/-- When the ticker was started that is left by ticks: at the last one that
read another interval than its period, and not zero. -/
def lastStart (start period : Nat) : List Tick → Nat
  | [] => start
  | k :: ticks =>
    if k.interval = 0 ∨ k.interval.toNat = period then lastStart start period ticks
    else lastStart k.now k.interval.toNat ticks

/-- The first tick tells the period for the rest, unless it read zero. -/
theorem lastPeriod_cons (first : Nat) (k : Tick) (ticks : List Tick) :
    lastPeriod first (k :: ticks)
      = lastPeriod (if k.interval = 0 then first else k.interval.toNat) ticks := by
  rw [lastPeriod, lastPeriod]
  split
  · rename_i hzero
    rw [List.filter_cons_of_neg (by simp [hzero])]
  · rename_i hzero
    rw [List.filter_cons_of_pos (by simp [hzero]), List.getLast?_cons]
    cases (ticks.filter fun k => k.interval ≠ 0).getLast? <;> rfl

namespace Course

variable {t u v : Ticker} {ticks others : List Tick}

/-- A course may follow another. -/
theorem trans (h : Course t ticks u) (h' : Course u others v) : Course t (ticks ++ others) v := by
  induction h with
  | rest => exact h'
  | tick hdue hnext _ ih => exact .tick hdue hnext (ih h')

/-- A course may be cut between any two of its ticks. -/
theorem split (h : Course t (ticks ++ others) v) :
    ∃ u, Course t ticks u ∧ Course u others v := by
  induction ticks generalizing t with
  | nil => exact ⟨t, .rest, h⟩
  | cons k ticks ih =>
    cases h with
    | tick hdue hnext hticks =>
      obtain ⟨u, hu, hv⟩ := ih hticks
      exact ⟨u, .tick hdue hnext hu, hv⟩

/-- A ticker keeps its core. -/
theorem core_eq (h : Course t ticks u) : u.core = t.core := by
  induction h with
  | rest => rfl
  | tick _ hnext _ ih => exact ih.trans hnext.core_eq

/-- The period is the last interval that was read and is not zero. -/
theorem period_eq (h : Course t ticks u) : u.period = lastPeriod t.period ticks := by
  induction h with
  | rest => rfl
  | tick _ hnext _ ih => rw [lastPeriod_cons, ih, hnext.period_eq]

/-- The period is never zero. -/
theorem period_pos (h : Course t ticks u) (hperiod : 0 < t.period) : 0 < u.period := by
  induction h with
  | rest => exact hperiod
  | tick _ hnext _ ih => exact ih (hnext.period_pos hperiod)

/-- The ticker is due at a multiple of its period after its start. -/
theorem due_eq (h : Course t ticks u) {start n : Nat} (hn : 0 < n)
    (hdue : t.due = start + n * t.period) :
    ∃ m, 0 < m ∧ u.due = lastStart start t.period ticks + m * u.period := by
  induction h generalizing start n with
  | rest => exact ⟨n, hn, hdue⟩
  | @tick k t u ticks _ hnext _ ih =>
    rw [lastStart]
    split
    · -- The ticker goes on, some periods later.
      rename_i hkept
      obtain ⟨hperiod, m, -, hlater, -⟩ := hnext.kept hkept
      rw [hdue, Nat.add_assoc, ← Nat.add_mul, ← hperiod] at hlater
      rw [← hperiod]
      exact ih (Nat.add_pos_left hn m) hlater
    · -- The tick starts the ticker anew, so the multiples are counted from it.
      rename_i hkept
      obtain ⟨hzero, hother⟩ := not_or.mp hkept
      obtain ⟨hperiod, hlater⟩ := hnext.changed hzero hother
      rw [← hperiod] at hlater ⊢
      exact ih Nat.zero_lt_one (by rw [hlater, Nat.one_mul])

/-- Each tick is due, and finds the period that the ticks before it tell
of. -/
theorem at_tick {k : Tick} (h : Course t (ticks ++ k :: others) u) (hperiod : 0 < t.period) :
    k.ticker.isDue k.now = true ∧ k.ticker.core = t.core ∧ 0 < k.ticker.period ∧
      k.ticker.period = lastPeriod t.period ticks := by
  obtain ⟨v, hbefore, hafter⟩ := h.split
  cases hafter with
  | tick hdue _ _ =>
    exact ⟨hdue, hbefore.core_eq, hbefore.period_pos hperiod, hbefore.period_eq⟩

end Course

/-! ### The ticks that are made at some time -/

/-- The ticks that a ticker makes, as long as it is due. -/
def ticksFor : Nat → Ticker → Pipeline → Nat → List Tick
  | 0, _, _, _ => []
  | fuel + 1, t, p, now =>
    if t.isDue now then
      ⟨t, p, now⟩ :: ticksFor fuel (t.tickOnce p now).1 (t.tickOnce p now).2 now
    else []

/-- The ticks that a ticker makes if it is due. -/
def ticksAt (t : Ticker) (p : Pipeline) (now : Nat) : List Tick :=
  ticksFor (now + 1 - t.due) t p now

section
variable {t : Ticker} {p : Pipeline} {now : Nat}

/-- The ticks that are made are a course. -/
theorem course_tickFor (hperiod : 0 < t.period) (fuel : Nat) (p : Pipeline) (now : Nat) :
    Course t (ticksFor fuel t p now) (tickFor fuel t p now).1 := by
  induction fuel generalizing t p with
  | zero => exact .rest
  | succ fuel ih =>
    rw [ticksFor, tickFor]
    split
    · rename_i hdue
      have hnext := renewed_tickOnce hperiod hdue p
      exact Course.tick (k := ⟨t, p, now⟩) hdue hnext (ih (hnext.period_pos hperiod) _)
    · exact .rest

/-- The ticker makes all ticks that are due. -/
theorem not_isDue_tickFor (hperiod : 0 < t.period) {fuel : Nat} (hfuel : now + 1 - t.due ≤ fuel)
    (p : Pipeline) : (tickFor fuel t p now).1.isDue now = false := by
  -- Each tick makes the ticker due later, so the time by which it is late falls.
  induction fuel generalizing t p with
  | zero =>
    show t.isDue now = false
    exact not_isDue_of_lt (by omega)
  | succ fuel ih =>
    rw [tickFor]
    split
    · rename_i hdue
      have hnext := renewed_tickOnce hperiod hdue p
      have hlater : t.due < (t.tickOnce p now).1.due :=
        hnext.due_lt hperiod (due_le_of_isDue hdue)
      exact ih (hnext.period_pos hperiod) (by omega) _
    · rename_i hdue
      exact Bool.eq_false_iff.mpr hdue

/-- Ticks make one pass each and do nothing else to the pipeline. -/
theorem tickFor_snd (fuel : Nat) (t : Ticker) (p : Pipeline) (now : Nat) :
    (tickFor fuel t p now).2
      = p.flushAll (List.replicate (ticksFor fuel t p now).length t.core) := by
  induction fuel generalizing t p with
  | zero => rfl
  | succ fuel ih =>
    rw [ticksFor, tickFor]
    split
    · -- The first tick makes one pass, and the ticker keeps its core.
      have hcore : (t.tickOnce p now).1.core = t.core := t.core_afterTick _ now
      show (tickFor fuel (t.tickOnce p now).1 (t.tickOnce p now).2 now).2 = _
      rw [ih, hcore]
      rfl
    · rfl

/-- Each tick comes at the time at which the ticker is looked at, and
finds a pipeline over whose core passes were made and nothing else. -/
theorem exists_passes_of_mem_ticksFor {fuel : Nat} {k : Tick} (h : k ∈ ticksFor fuel t p now) :
    k.now = now ∧ k.ticker.core = t.core ∧
      ∃ n, k.pipeline = p.flushAll (List.replicate n t.core) := by
  induction fuel generalizing t p with
  | zero => exact absurd h List.not_mem_nil
  | succ fuel ih =>
    rw [ticksFor] at h
    split at h
    · rcases List.mem_cons.mp h with rfl | h
      · exact ⟨rfl, rfl, 0, rfl⟩
      · obtain ⟨hnow, hk, n, hpipeline⟩ := ih h
        have hcore : (t.tickOnce p now).1.core = t.core := t.core_afterTick _ now
        rw [hcore] at hk hpipeline
        exact ⟨hnow, hk, n + 1, hpipeline⟩
    · exact absurd h List.not_mem_nil

/-- The ticks that are made at some time are a course. -/
theorem course_tick (hperiod : 0 < t.period) (p : Pipeline) (now : Nat) :
    Course t (t.ticksAt p now) (t.tick p now).1 := course_tickFor hperiod _ p now

/-- When the ticks are made the ticker is not due any more. -/
theorem not_isDue_tick (hperiod : 0 < t.period) (p : Pipeline) (now : Nat) :
    (t.tick p now).1.isDue now = false := not_isDue_tickFor hperiod (Nat.le_refl _) p

/-- All that the ticks of some time do to the pipeline is one pass each. -/
theorem tick_snd (t : Ticker) (p : Pipeline) (now : Nat) :
    (t.tick p now).2 = p.flushAll (List.replicate (t.ticksAt p now).length t.core) :=
  tickFor_snd _ t p now

end

end Ticker

end RuleTrace
