import RuleTrace.Fifo
import RuleTrace.Text.Numeral

/-!
# `RuleTrace.Aggregation.Pending`: ids waiting for the flush

The ids of the records in a store, in the order in which the records
came, up to a capacity.
-/

set_option autoImplicit false

namespace RuleTrace

/-- The failure to let another id wait. -/
structure PendingFull where
  capacity : Nat
  deriving DecidableEq, Repr

/-- The wording of the failure. -/
def PendingFull.message (e : PendingFull) : String :=
  "pending queue full (" ++ String.ofList (Text.decimal e.capacity) ++ " entries)"

/-- Ids waiting for the flush. -/
abbrev Pending := Fifo UInt32

/-- The greatest capacity that a queue can have. An id takes four
octets, and all of them must be fewer than `2 ^ 63`. -/
def Pending.greatestCapacity : Nat := Nat.pow 2 61 - 1

/-- The queue with one more id behind the others. -/
def Pending.push (q : Pending) (id : UInt32) : Except PendingFull Pending :=
  match q.push? id with
  | some q => .ok q
  | none => .error ⟨q.capacity⟩

end RuleTrace
