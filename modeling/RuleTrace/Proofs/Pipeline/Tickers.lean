import RuleTrace.Proofs.Pipeline.Pending
import RuleTrace.Proofs.Pipeline.Ticker

/-!
# `RuleTrace.Proofs.Pipeline.Tickers`: one ticker among others

Each tick takes a batch of ids from its core and leaves the other cores
alone (`Tick.TakesBatch`). All tickers that are due at one time tick one
after the other. No core has two of them, and they do nothing but passes
over their cores. So for one core it does not matter when the others tick:
its own ticker does what it would do alone, among passes over other cores
(`tickAll_of_ofCore?`).
-/

set_option autoImplicit false

namespace RuleTrace

namespace Tick

/-- A tick takes the oldest ids of its core, as many as a batch holds, and
leaves the other cores alone. -/
structure TakesBatch (batch : Nat) (k : Tick) : Prop where
  left_eq : k.passed.pendingIds k.ticker.core = (k.pipeline.pendingIds k.ticker.core).drop batch
  emitted_eq : k.report.emitted = min batch (k.pipeline.pendingIds k.ticker.core).length
  missed_eq : k.report.missed = 0
  others : ∀ other, other ≠ k.ticker.core →
    k.passed.pendingIds other = k.pipeline.pendingIds other

/-- With nobody at the locks a tick takes its batch. -/
theorem takesBatch {batch attempts : Nat} {k : Tick}
    (h : k.pipeline.Undisturbed true batch attempts) (hattempts : 0 < attempts) :
    k.TakesBatch batch := by
  obtain ⟨htaken, hemitted, hmissed⟩ :=
    Pipeline.flushCore_pendingIds h hattempts k.ticker.core
  exact ⟨htaken, hemitted, hmissed,
    fun _ hother => (Pipeline.onlyOn_flushCore k.pipeline k.ticker.core).pendingIds_eq hother⟩

end Tick

namespace Ticker

/-! ### All tickers -/

/-- The ticker of a core. -/
def ofCore? (ts : List Ticker) (core : Nat) : Option Ticker := ts.find? fun t => t.core = core

/-- The ticks of one core among those that all tickers make. -/
def ticksOf (core : Nat) : List Ticker → Pipeline → Nat → List Tick
  | [], _, _ => []
  | t :: ts, p, now =>
    (if t.core = core then t.ticksAt p now else []) ++ ticksOf core ts (t.tick p now).2 now

section
variable {ts : List Ticker} {core : Nat}

/-- A ticker of the core comes first. -/
theorem ofCore?_cons_self {t : Ticker} (h : t.core = core) (ts : List Ticker) :
    ofCore? (t :: ts) core = some t := List.find?_cons_of_pos (decide_eq_true h)

/-- A ticker of another core is passed over. -/
theorem ofCore?_cons_of_ne {t : Ticker} (h : t.core ≠ core) (ts : List Ticker) :
    ofCore? (t :: ts) core = ofCore? ts core :=
  List.find?_cons_of_neg (mt of_decide_eq_true h)

/-- The ticker of a core is one of the tickers, and has this core. -/
theorem mem_of_ofCore? {t : Ticker} (h : ofCore? ts core = some t) : t ∈ ts ∧ t.core = core := by
  have hcore := List.find?_some h
  exact ⟨List.mem_of_find?_eq_some h, of_decide_eq_true hcore⟩

/-- If no core has two tickers, each ticker is that of its core. -/
theorem ofCore?_of_mem (h : (ts.map Ticker.core).Nodup) {t : Ticker} (ht : t ∈ ts) :
    ofCore? ts t.core = some t := by
  induction ts with
  | nil => exact absurd ht List.not_mem_nil
  | cons u ts ih =>
    obtain ⟨hnew, hdistinct⟩ := List.nodup_cons.mp h
    rcases List.mem_cons.mp ht with rfl | ht
    · exact ofCore?_cons_self rfl ts
    · have hne : u.core ≠ t.core := fun he => hnew (List.mem_map.mpr ⟨t, ht, he.symm⟩)
      rw [ofCore?_cons_of_ne hne]
      exact ih hdistinct ht

/-- A core without a ticker has no ticks. -/
theorem ticksOf_eq_nil (h : core ∉ ts.map Ticker.core) (p : Pipeline) (now : Nat) :
    ticksOf core ts p now = [] := by
  induction ts generalizing p with
  | nil => rfl
  | cons t ts ih =>
    obtain ⟨hne, hts⟩ := List.ne_and_not_mem_of_not_mem_cons h
    rw [ticksOf, if_neg hne.symm, List.nil_append]
    exact ih hts _

/-- Tickers make passes over their cores. -/
theorem tickAll_snd (ts : List Ticker) (p : Pipeline) (now : Nat) :
    ∃ cores, (∀ c ∈ cores, c ∈ ts.map Ticker.core) ∧
      (tickAll ts p now).2 = p.flushAll cores := by
  induction ts generalizing p with
  | nil => exact ⟨[], fun c hc => absurd hc List.not_mem_nil, rfl⟩
  | cons t ts ih =>
    obtain ⟨cores, hcores, he⟩ := ih (t.tick p now).2
    refine ⟨List.replicate (t.ticksAt p now).length t.core ++ cores, fun c hc => ?_, ?_⟩
    · rcases List.mem_append.mp hc with hc | hc
      · rw [(List.mem_replicate.mp hc).2]
        exact List.mem_cons_self
      · exact List.mem_cons_of_mem _ (hcores c hc)
    · show (tickAll ts (t.tick p now).2 now).2 = _
      rw [he, tick_snd, Pipeline.flushAll_append]

section
variable (hpositive : ∀ t ∈ ts, 0 < t.period)
include hpositive

/-- Tickers keep their cores, and their periods are not zero. -/
theorem tickAll_fst (p : Pipeline) (now : Nat) :
    (tickAll ts p now).1.map Ticker.core = ts.map Ticker.core ∧
      ∀ t ∈ (tickAll ts p now).1, 0 < t.period := by
  induction ts generalizing p with
  | nil => exact ⟨rfl, hpositive⟩
  | cons t ts ih =>
    have hcourse := course_tick (hpositive t List.mem_cons_self) p now
    obtain ⟨hcores, hperiods⟩ :=
      ih (fun u hu => hpositive u (List.mem_cons_of_mem t hu)) (t.tick p now).2
    refine ⟨?_, fun u hu => ?_⟩
    · show (t.tick p now).1.core :: (tickAll ts (t.tick p now).2 now).1.map Ticker.core = _
      rw [hcores, hcourse.core_eq]
      rfl
    · rcases List.mem_cons.mp hu with rfl | hu
      · exact hcourse.period_pos (hpositive t List.mem_cons_self)
      · exact hperiods u hu

/-- For one core, all tickers do what its own one does among passes over
other cores. -/
theorem tickAll_of_ofCore? (hdistinct : (ts.map Ticker.core).Nodup) {t : Ticker}
    (ht : ofCore? ts core = some t) (p : Pipeline) (now : Nat) :
    ∃ before others, core ∉ before ∧ core ∉ others ∧
      ticksOf core ts p now = t.ticksAt (p.flushAll before) now ∧
      ofCore? (tickAll ts p now).1 core = some (t.tick (p.flushAll before) now).1 ∧
      (tickAll ts p now).2 = (t.tick (p.flushAll before) now).2.flushAll others := by
  induction ts generalizing p with
  | nil => cases ht
  | cons u ts ih =>
    obtain ⟨hnew, hdistinct⟩ := List.nodup_cons.mp hdistinct
    have hcore := (course_tick (hpositive u List.mem_cons_self) p now).core_eq
    by_cases hu : u.core = core
    · -- This is the ticker of the core, and the others have other cores.
      have ht : u = t := Option.some.inj ((ofCore?_cons_self hu ts).symm.trans ht)
      subst ht
      obtain ⟨others, hothers, he⟩ := tickAll_snd ts (u.tick p now).2 now
      refine ⟨[], others, List.not_mem_nil, fun hmem => hnew (hu ▸ hothers core hmem), ?_, ?_, he⟩
      · rw [ticksOf, if_pos hu, ticksOf_eq_nil (hu ▸ hnew), List.append_nil]
        rfl
      · exact ofCore?_cons_self (hcore.trans hu) _
    · -- This ticker makes its passes before that of the core ticks.
      rw [ofCore?_cons_of_ne hu] at ht
      obtain ⟨before, others, hbefore, hothers, hticks, hticker, he⟩ :=
        ih (fun v hv => hpositive v (List.mem_cons_of_mem u hv)) hdistinct ht (u.tick p now).2
      have hpasses : (u.tick p now).2.flushAll before
          = p.flushAll (List.replicate (u.ticksAt p now).length u.core ++ before) := by
        rw [tick_snd, Pipeline.flushAll_append]
      rw [hpasses] at hticks hticker he
      refine ⟨_, others, fun hmem => ?_, hothers, ?_, ?_, he⟩
      · rcases List.mem_append.mp hmem with hmem | hmem
        · exact hu (List.mem_replicate.mp hmem).2.symm
        · exact hbefore hmem
      · rw [ticksOf, if_neg hu, List.nil_append]
        exact hticks
      · exact (ofCore?_cons_of_ne (fun he => hu (hcore.symm.trans he)) _).trans hticker

end

end

end Ticker

end RuleTrace
