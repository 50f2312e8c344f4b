import RuleTrace.Text.Numeral

/-!
# `RuleTrace.Lock`: locks that are given up on

A lock is tried a fixed number of times and never waited for. Whoever
does not get it is told so and goes on without. Seen one operation at
a time, an attempt succeeds exactly when the lock is free and at least
one attempt is allowed.

`Guarded` is a value behind a lock; `Guarded.withLock` runs one
operation on the value while the lock is held.
-/

set_option autoImplicit false

namespace RuleTrace

/-- A lock. -/
structure Lock where
  held : Bool
  deriving DecidableEq, Repr, Inhabited

/-- The failure to get a lock in the given number of attempts. -/
structure Contended where
  attempts : Nat
  deriving DecidableEq, Repr

/-- The wording of the failure. -/
def Contended.message (e : Contended) : String :=
  "lock still held after " ++ String.ofList (Text.decimal e.attempts) ++ " attempts"

namespace Lock

/-- A free lock. -/
def free : Lock := ⟨false⟩

/-- The lock after it was taken, if one of `attempts` attempts gets
it. -/
def acquire (l : Lock) (attempts : Nat) : Except Contended Lock :=
  if 0 < attempts ∧ l.held = false then .ok ⟨true⟩ else .error ⟨attempts⟩

/-- The lock after it was given back; a free lock stays free. -/
def release (_ : Lock) : Lock := free

end Lock

/-- A value behind a lock. -/
structure Guarded (α : Type) where
  lock : Lock
  value : α
  deriving DecidableEq, Repr, Inhabited

namespace Guarded

variable {α β : Type}

/-- A value behind a free lock. -/
def new (value : α) : Guarded α := ⟨.free, value⟩

/-- The value after its lock was taken. -/
def acquire (g : Guarded α) (attempts : Nat) : Except Contended (Guarded α) :=
  (g.lock.acquire attempts).map fun l => { g with lock := l }

/-- The value after its lock was given back. -/
def release (g : Guarded α) : Guarded α := { g with lock := g.lock.release }

/-- Takes the lock, runs one operation on the value and gives the lock
back. Without the lock nothing happens. -/
def withLock (g : Guarded α) (attempts : Nat) (operation : α → β × α) :
    Except Contended β × Guarded α :=
  match g.acquire attempts with
  | .error e => (.error e, g)
  | .ok g =>
    let (answer, value) := operation g.value
    (.ok answer, { g with value := value }.release)

/-- The diagnostic text, which does not show the value. -/
def debugText (g : Guarded α) : String :=
  "SpinLock \x7b locked: " ++ (if g.lock.held then "true" else "false") ++ ", .. \x7d"

end Guarded

end RuleTrace
