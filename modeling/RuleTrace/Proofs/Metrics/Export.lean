import RuleTrace.Metrics.Exposition

/-!
# `RuleTrace.Proofs.Metrics.Export`: totals that grow with their counters

Counters are words, and their totals are numbers that are kept by someone
else. An export adds to each total what its counter grew by since the
last export, so it has to remember the counters of then. Growth is never
negative (`Counters.toNat_growth`), so where a counter wraps between two
exports some of what it counted is lost.

`Exporter` is all that takes part: the counters, what is remembered of
them, and the metrics. Counters grow and are exported in any order
(`Exporter.afterAll`). The invariant is `Exporter.Exact`: a total is what
its counter was at the last export. The counter runs ahead of it, and the
next export lets the total catch up (`Exact.report`).

The numbers need not be known for that. It is enough that they are added
without loss (`Arithmetic.Additive`), which is true of exact numbers and
not of binary64. An observer finds a total by the name of its counter
(`Metrics.shown?_eq`).
-/

set_option autoImplicit false

namespace RuleTrace

/-! ### Counters as numbers -/

namespace Counter

/-- Every place is that of a counter. -/
theorem exists_index (i : Fin 12) : ∃ k : Counter, k.index = i := by
  have hall : ∀ i : Fin 12, (all.get (i.cast rfl)).index = i := by decide
  exact ⟨_, hall i⟩

/-- No counter is left out of the list of all. -/
theorem mem_all (k : Counter) : k ∈ all := by
  cases k <;> decide

/-- No counter is listed twice. -/
theorem nodup_all : all.Nodup := by decide

/-- A name tells its counter. -/
theorem name_injective {j k : Counter} (h : j.name = k.name) : j = k := by
  have hall : ∀ j ∈ all, ∀ k ∈ all, j.name = k.name → j = k := by decide
  exact hall j j.mem_all k k.mem_all h

end Counter

namespace Counters

/-- Counters are told by their values. -/
theorem ext_get {c d : Counters} (h : ∀ k, c.get k = d.get k) : c = d := by
  refine congrArg Counters.mk (Vector.ext fun i hi => ?_)
  obtain ⟨k, hk⟩ := Counter.exists_index ⟨i, hi⟩
  have hget := h k
  simp only [get, hk] at hget
  exact hget

/-- At the start every counter is zero. -/
theorem get_zero (k : Counter) : zero.get k = 0 := by
  simp [zero, get]

/-- What counters grew by is told for each counter alone. -/
theorem get_since (now before : Counters) (k : Counter) :
    (now.since before).get k = growth (now.get k) (before.get k) := by
  simp [since, get]

/-- Growth is a difference that stops at zero. -/
theorem toNat_growth (now before : UInt64) :
    (growth now before).toNat = now.toNat - before.toNat := by
  rw [growth]
  split
  · rename_i hle
    exact UInt64.toNat_sub_of_le _ _ hle
  · rename_i hlt
    have : ¬ before.toNat ≤ now.toNat := hlt
    show 0 = _
    omega

end Counters

/-! ### Totals -/

/-- Numbers are added without loss. -/
def Arithmetic.Additive {ν : Type} (a : Arithmetic ν) : Prop :=
  ∀ m n, a.add (a.ofNat m) (a.ofNat n) = a.ofNat (m + n)

/-- Exact numbers are added without loss. -/
theorem Arithmetic.additive_exact : exact.Additive := fun m n => (Rat.natCast_add m n).symm

namespace Metrics

variable {ν : Type} {a : Arithmetic ν}

/-- A total grows by the number that it is given. -/
theorem grow_ofNat (ha : a.Additive) (n : Nat) (growth : UInt64) :
    grow a (a.ofNat n) growth = a.ofNat (n + growth.toNat) := by
  rw [grow]
  split
  · rename_i hzero
    rw [hzero]
    rfl
  · exact ha n growth.toNat

/-- A total stands in the place of its counter. -/
theorem total_eq (m : Metrics ν) (k : Counter) :
    m.total k = getElem m.events (k.index : Nat) k.index.isLt := rfl

/-- Only the events of the metrics tell a total. -/
theorem total_congr {m l : Metrics ν} (h : m.events = l.events) (k : Counter) :
    m.total k = l.total k := by
  rw [total_eq, total_eq, h]

/-- At the start every total is zero. -/
theorem total_zero (k : Counter) : (zero a).total k = a.ofNat 0 := by
  simp [zero, total_eq]

/-- An export adds to each total what its counter grew by. -/
theorem total_exportGrowth (m : Metrics ν) (now last : Counters) (k : Counter) :
    (m.exportGrowth a now last).total k
      = grow a (m.total k) (Counters.growth (now.get k) (last.get k)) := by
  rw [← Counters.get_since]
  simp [exportGrowth, addGrowth, total_eq, Counters.get]

/-- Without growth an export changes nothing. -/
theorem exportGrowth_self (m : Metrics ν) (c : Counters) : m.exportGrowth a c c = m := by
  have hevents : (m.exportGrowth a c c).events = m.events := by
    refine Vector.ext fun i hi => ?_
    obtain ⟨k, hk⟩ := Counter.exists_index ⟨i, hi⟩
    have htotal := m.total_exportGrowth (a := a) c c k
    have hgrowth : Counters.growth (c.get k) (c.get k) = 0 := by
      simp [Counters.growth]
    rw [hgrowth, grow, if_pos rfl] at htotal
    simp only [total_eq, hk] at htotal
    exact htotal
  show { m with events := (m.exportGrowth a c c).events } = m
  rw [hevents]

/-! ### What is shown -/

/-- The value that is shown for a counter. -/
def shown? (m : Metrics ν) (k : Counter) : Option ν :=
  (m.families.find? fun f => f.name = "pipeline_events_total").bind fun f =>
    (f.samples.find? fun sample => sample.1 = some k.name).map Prod.snd

/-- Sorting the counters by name leaves none out. -/
theorem mem_countersByName (k : Counter) : k ∈ countersByName :=
  List.mem_mergeSort.mpr k.mem_all

/-- The sample with the name of a counter shows its total. -/
theorem shown?_eq (m : Metrics ν) (k : Counter) : m.shown? k = some (m.total k) := by
  have hfamily : (m.families.find? fun f => f.name = "pipeline_events_total")
      = some ⟨"pipeline_events_total", "Total trace pipeline events by kind.", "counter",
        countersByName.map fun j => (some j.name, m.total j)⟩ := rfl
  -- Names are told apart, so the first sample with the name is that of the counter.
  have hfind : (countersByName.find? fun j => some j.name = some k.name) = some k := by
    cases hfound : countersByName.find? fun j => some j.name = some k.name with
    | none => simpa using List.find?_eq_none.mp hfound k (mem_countersByName k)
    | some j =>
      have hname : j.name = k.name := by simpa using List.find?_some hfound
      rw [Counter.name_injective hname]
  rw [shown?, hfamily, Option.bind_some, List.find?_map]
  show Option.map Prod.snd (Option.map _ (countersByName.find? fun j => some j.name = some k.name))
    = _
  rw [hfind]
  rfl

end Metrics

/-! ### Growth and exports in any order -/

/-- Counters whose growth is exported to metrics. -/
structure Exporter (ν : Type) where
  counters : Counters
  /-- the counters at the last export -/
  exported : Counters
  metrics : Metrics ν

namespace Exporter

/-- Something that happens to an exporter. -/
inductive Step where
  /-- a counter grows -/
  | grow (k : Counter) (n : UInt64)
  /-- the growth of all counters is exported -/
  | report
  deriving DecidableEq

/-- By how much steps make a counter grow. -/
def grown (k : Counter) : List Step → Nat
  | [] => 0
  | .grow j n :: steps => (if j = k then n.toNat else 0) + grown k steps
  | .report :: steps => grown k steps

/-- No counter grows past the greatest word. -/
def Fits (steps : List Step) : Prop := ∀ k, grown k steps < UInt64.size

/-- What a counter grows by in one run and then another adds up. -/
theorem grown_append (k : Counter) (steps others : List Step) :
    grown k (steps ++ others) = grown k steps + grown k others := by
  induction steps with
  | nil => exact (Nat.zero_add _).symm
  | cons step steps ih =>
    cases step with
    | grow j n => rw [List.cons_append, grown, grown, ih, Nat.add_assoc]
    | report => rw [List.cons_append, grown, grown, ih]

variable {ν : Type} (a : Arithmetic ν)

/-- An exporter of which nothing was counted or exported yet. -/
def begin : Exporter ν := ⟨.zero, .zero, .zero a⟩

/-- The exporter after a step. -/
def after (e : Exporter ν) : Step → Exporter ν
  | .grow k n => { e with counters := e.counters.add k n }
  | .report => { e with
      exported := e.counters
      metrics := e.metrics.exportGrowth a e.counters e.exported }

/-- The exporter after steps. -/
def afterAll (steps : List Step) (e : Exporter ν) : Exporter ν := steps.foldl (after a) e

/-- Steps may be cut anywhere. -/
theorem afterAll_append (steps others : List Step) (e : Exporter ν) :
    e.afterAll a (steps ++ others) = (e.afterAll a steps).afterAll a others := List.foldl_append

/-- Nothing is lost or counted twice: each counter is what it grew by,
and its total is what it was at the last export, which is no more. -/
structure Exact (n : Counter → Nat) (e : Exporter ν) : Prop where
  counted : ∀ k, (e.counters.get k).toNat = n k
  exported_le : ∀ k, (e.exported.get k).toNat ≤ n k
  total_eq : ∀ k, e.metrics.total k = a.ofNat (e.exported.get k).toNat

variable {a} {n : Counter → Nat} {e : Exporter ν}

/-- Nothing is counted yet, and nothing is lost. -/
theorem exact_begin : (begin a).Exact a fun _ => 0 := by
  have hzero : ∀ k, ((Counters.zero).get k).toNat = 0 := fun k => by
    rw [Counters.get_zero]
    rfl
  refine ⟨hzero, fun k => Nat.le_of_eq (hzero k), fun k => ?_⟩
  show (Metrics.zero a).total k = a.ofNat ((Counters.zero).get k).toNat
  rw [hzero]
  exact Metrics.total_zero k

/-- An export without growth since the last one changes nothing. -/
theorem after_report_of_eq (h : e.exported = e.counters) : e.after a .report = e := by
  obtain ⟨counters, exported, metrics⟩ := e
  obtain rfl : exported = counters := h
  rw [after, Metrics.exportGrowth_self]

namespace Exact

/-- When a counter grows, only its number does, and no total. -/
theorem grow (h : e.Exact a n) {k : Counter} {w : UInt64}
    (hfits : n k + w.toNat < UInt64.size) :
    (e.after a (.grow k w)).Exact a fun j => n j + if k = j then w.toNat else 0 := by
  refine ⟨fun j => ?_, fun j => Nat.le_add_right_of_le (h.exported_le j), h.total_eq⟩
  show ((e.counters.add k w).get j).toNat = _
  by_cases hkj : k = j
  · subst hkj
    rw [Counters.get_add_self, UInt64.toNat_add, h.counted, if_pos rfl]
    exact Nat.mod_eq_of_lt hfits
  · rw [Counters.get_add_of_ne _ _ hkj, h.counted, if_neg hkj, Nat.add_zero]

/-- An export adds to a total what the counter grew by since the last
one, so that the total catches up with the counter. -/
theorem report (ha : a.Additive) (h : e.Exact a n) : (e.after a .report).Exact a n := by
  refine ⟨h.counted, fun k => Nat.le_of_eq (h.counted k), fun k => ?_⟩
  -- An export never ran ahead of its counter, so the subtraction loses nothing.
  have hcaught : (e.exported.get k).toNat
      + ((e.counters.get k).toNat - (e.exported.get k).toNat) = (e.counters.get k).toNat := by
    have hle := h.exported_le k
    have hcounted := h.counted k
    omega
  show (e.metrics.exportGrowth a e.counters e.exported).total k
    = a.ofNat (e.counters.get k).toNat
  rw [Metrics.total_exportGrowth, h.total_eq, Metrics.grow_ofNat ha, Counters.toNat_growth,
    hcaught]

/-- One step keeps the exporter exact, as long as no counter wraps. -/
theorem after (ha : a.Additive) (h : e.Exact a n) (step : Step)
    (hfits : ∀ k, n k + grown k [step] < UInt64.size) :
    (e.after a step).Exact a fun k => n k + grown k [step] := by
  cases step with
  | grow k w =>
    have hk := hfits k
    rw [grown, if_pos rfl] at hk
    exact h.grow hk
  | report => exact h.report ha

/-- Any steps keep the exporter exact, as long as no counter wraps. -/
theorem afterAll (ha : a.Additive) (h : e.Exact a n) (steps : List Step)
    (hfits : ∀ k, n k + grown k steps < UInt64.size) :
    (e.afterAll a steps).Exact a fun k => n k + grown k steps := by
  -- What was counted grows with each step, so the induction is over any numbers at the start.
  induction steps generalizing e n with
  | nil => exact h
  | cons step steps ih =>
    have hsplit : ∀ k, n k + grown k (step :: steps)
        = n k + grown k [step] + grown k steps := fun k => by
      rw [← List.singleton_append, grown_append, Nat.add_assoc]
    have hnext := h.after ha step fun k => by
      have := hfits k
      rw [hsplit] at this
      omega
    simp only [hsplit] at hfits ⊢
    exact ih hnext hfits

end Exact

/-- Whatever happens to an exporter before a counter grows past the
greatest word. -/
theorem exact_afterAll (ha : a.Additive) {steps : List Step} (hfits : Fits steps) :
    ((begin a).afterAll a steps).Exact a fun k => grown k steps := by
  have h := exact_begin.afterAll ha steps fun k => by
    rw [Nat.zero_add]
    exact hfits k
  simpa only [Nat.zero_add] using h

end Exporter

end RuleTrace
