import RuleTrace.Fifo
import RuleTrace.Record.Basic

/-!
# `RuleTrace.Output.Lane`: one bounded lane of records

Records wait in a lane for the reader. The reader can close the lane:
what waits can still be read, nothing more is accepted. When the last
writer is gone nothing more can come either. A lane that is empty and
can receive nothing more has ended.
-/

set_option autoImplicit false

namespace RuleTrace

/-- Why a record was not accepted. -/
inductive PublishError where
  | full
  | closed
  deriving DecidableEq, Repr

/-- The wording of the error. -/
def PublishError.message : PublishError → String
  | full => "output lane full"
  | closed => "output reader closed"

/-- A lane of records. -/
structure Lane where
  buffer : Fifo Record
  /-- whether the reader closed it -/
  closed : Bool
  /-- whether all writers are gone -/
  abandoned : Bool
  deriving DecidableEq, Repr

/-- What a reader that could wait finds in a lane. -/
inductive Poll (α : Type) where
  | ready (item : α)
  /-- nothing now, perhaps later -/
  | pending
  /-- nothing, ever -/
  | ended
  deriving DecidableEq, Repr

namespace Lane

/-- The greatest capacity that a lane can have: its free places are
counted in 61 bits. -/
def greatestCapacity : Nat := Nat.pow 2 61 - 1

/-- An open lane for at least one record. -/
def new (capacity : Nat) : Lane := ⟨.empty (max capacity 1), false, false⟩

/-- Accepts a record if the lane is open and has room. -/
def publish (l : Lane) (r : Record) : Except PublishError Lane :=
  if l.closed then .error .closed
  else
    match l.buffer.push? r with
    | some buffer => .ok { l with buffer := buffer }
    | none => .error .full

/-- The oldest record and the lane without it. -/
def receive? (l : Lane) : Option (Record × Lane) :=
  l.buffer.pop?.map fun (r, buffer) => (r, { l with buffer := buffer })

/-- Whether a lane that has no record will never have one. -/
def isFinished (l : Lane) : Bool := l.closed || l.abandoned

/-- What a reader that could wait finds. -/
def poll (l : Lane) : Poll (Record × Lane) :=
  match l.receive? with
  | some found => .ready found
  | none => if l.isFinished then .ended else .pending

end Lane

end RuleTrace
