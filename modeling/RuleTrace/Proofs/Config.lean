import RuleTrace.Config.Basic

/-!
# `RuleTrace.Proofs.Config`: which configurations are accepted

A configuration is accepted when it breaks none of its rules
(`validate_eq_ok_iff`). Three of the rules are looked at only where
aggregation is on. So another interval can make a configuration invalid,
but only by turning aggregation on (`validate_withInterval`).
-/

set_option autoImplicit false

namespace RuleTrace

/-- The span that is zero is `Span.zero`. -/
theorem Span.isZero_iff (d : Span) : d.isZero = true ↔ d = .zero := by
  rw [isZero, beq_iff_eq]
  exact ⟨fun h => congrArg Span.mk h, fun h => congrArg Span.nanos h⟩

namespace Config

variable {c : Config}

/-- Aggregation is on unless the interval is zero. -/
theorem isAggregating_iff (c : Config) : c.isAggregating = true ↔ c.interval ≠ .zero := by
  rw [isAggregating, Bool.not_eq_true', ← Bool.not_eq_true, c.interval.isZero_iff]

/-- A configuration is accepted when no check finds a fault. -/
theorem validate_eq_ok_iff (c : Config) :
    c.validate = .ok () ↔ ∀ check ∈ c.checks, check.1 = false := by
  rw [validate, firstFault]
  cases hfind : c.checks.find? (·.1) with
  | some check =>
    refine ⟨fun h => (nomatch h), fun h => ?_⟩
    have hbroken := List.find?_some hfind
    rw [h check (List.mem_of_find?_eq_some hfind)] at hbroken
    cases hbroken
  | none =>
    refine ⟨fun _ check hcheck => ?_, fun _ => rfl⟩
    exact Bool.eq_false_iff.mpr (List.find?_eq_none.mp hfind check hcheck)

/-- A configuration that is accepted allows an attempt at the locks. -/
theorem attempts_pos (h : c.validate = .ok ()) : 0 < c.attempts := by
  -- The rule about the attempts is looked at in any mode.
  have hattempts := (c.validate_eq_ok_iff.mp h) (c.attempts == 0, .attempts) (by simp [checks])
  exact Nat.pos_of_ne_zero (beq_eq_false_iff_ne.mp hattempts)

/-- Another interval keeps a configuration valid unless it turns
aggregation on. -/
theorem validate_withInterval (h : c.validate = .ok ()) {interval : Span}
    (hallowed : interval = .zero ∨ c.interval ≠ .zero) :
    { c with interval := interval }.validate = .ok () := by
  rw [validate_eq_ok_iff] at h ⊢
  simp only [checks, List.forall_mem_cons] at h ⊢
  obtain ⟨hstore, hqueue, hbatch, hrest⟩ := h
  rcases hallowed with rfl | hon
  · -- Without an interval nobody looks at the stores.
    exact ⟨rfl, rfl, rfl, hrest⟩
  · rw [c.isAggregating_iff.mpr hon, Bool.true_and] at hstore hqueue hbatch
    refine ⟨?_, ?_, ?_, hrest⟩
    · rw [hstore, Bool.and_false]
    · rw [hqueue, Bool.and_false]
    · rw [hbatch, Bool.and_false]

end Config

end RuleTrace
