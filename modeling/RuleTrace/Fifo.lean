/-!
# `RuleTrace.Fifo`: bounded first-in first-out queues

The items in order, oldest first, and how many there may be. An item
is added behind the others or not at all; the oldest is taken first.
-/

set_option autoImplicit false

namespace RuleTrace

/-- A bounded queue. -/
structure Fifo (α : Type) where
  items : List α
  capacity : Nat
  deriving DecidableEq, Repr, Inhabited

namespace Fifo

variable {α : Type}

/-- A queue without items. -/
def empty (capacity : Nat) : Fifo α := ⟨[], capacity⟩

def size (q : Fifo α) : Nat := q.items.length

/-- Whether no further item fits. -/
def isFull (q : Fifo α) : Bool := q.capacity ≤ q.size

/-- The queue with one more item, if it fits. -/
def push? (q : Fifo α) (x : α) : Option (Fifo α) :=
  if q.isFull then none else some { q with items := q.items ++ [x] }

/-- The oldest item and the queue without it. -/
def pop? (q : Fifo α) : Option (α × Fifo α) :=
  match q.items with
  | [] => none
  | x :: rest => some (x, { q with items := rest })

end Fifo

end RuleTrace
