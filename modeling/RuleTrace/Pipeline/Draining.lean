import RuleTrace.Pipeline.Basic

/-!
# `RuleTrace.Pipeline.Draining`: emptying the slots, step by step

When tracing ends, passes are made over each core until none of its ids
waits or a pass does nothing. `Pipeline.drainAll` does this at once. The
reader is at work meanwhile, and others may look at the slots, so it
matters what happens between two steps: a pass begins with the lock of
its core, hands on one record after another, and ends; after it comes
another pass, or the next core. `Draining` says how far this has come,
and `Draining.step` takes one step.

A core whose lock is not to be had is left as it is, for a pass without
the lock reports what a pass that finds nothing reports.
-/

set_option autoImplicit false

namespace RuleTrace

/-- How far emptying the slots has come. -/
structure Draining where
  /-- the cores that are left; passes are made over the first of them -/
  cores : List Nat
  /-- how many ids the pass under way has taken, if one is under way -/
  taken : Option Nat
  /-- the cores that were left because of their lock -/
  givenUp : List Nat
  deriving DecidableEq, Repr

namespace Draining

/-- Nothing was done yet. -/
def start (p : Pipeline) : Draining :=
  ⟨List.range ((p.slots.map Aggregation.coreCount).getD 0), none, []⟩

/-- Begins a pass over a core, which takes its lock. -/
def beginPass (contended : Bool) (core : Nat) (rest : List Nat) (d : Draining) (p : Pipeline) :
    Draining × Pipeline :=
  match Lock.acquire ⟨contended⟩ ((p.slots.map Aggregation.attempts).getD 0) with
  | .ok _ => ({ d with taken := some 0 }, p)
  | .error _ =>
    ({ d with cores := rest, givenUp := core :: d.givenUp },
      (p.bump .readWait).bump .lockContended)

/-- The number of ids that wait on a core. -/
def pendingOn (p : Pipeline) (core : Nat) : Nat :=
  (p.slots.map fun a => Outlet.pendingOn a core).getD 0

/-- Goes on with a pass over a core that has taken `n` ids: it hands on
the next record, or ends. A pass that took nothing is the last one. -/
def goOn (n core : Nat) (rest : List Nat) (d : Draining) (p : Pipeline) : Draining × Pipeline :=
  if n < p.batch ∧ pendingOn p core ≠ 0 then ({ d with taken := some (n + 1) }, p.offer core)
  else if pendingOn p core = 0 ∨ n = 0 then ({ d with cores := rest, taken := none }, p)
  else ({ d with taken := none }, p)

/-- Takes a step, while somebody else holds the lock of the first core or
not. During a pass nobody can. -/
def step (contended : Bool) (d : Draining) (p : Pipeline) : Draining × Pipeline :=
  match d.cores, d.taken with
  | [], _ => (d, p)
  | core :: rest, none => d.beginPass contended core rest p
  | core :: rest, some n => d.goOn n core rest p

end Draining

end RuleTrace
