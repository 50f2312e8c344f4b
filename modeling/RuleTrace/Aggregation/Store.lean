import RuleTrace.Record.Basic
import RuleTrace.Text.Numeral

/-!
# `RuleTrace.Aggregation.Store`: records by id, up to a capacity

The store keeps records under correlation ids, at most one per id.
Only a new id counts against the capacity: a record whose id is there
replaces the old one even in a full store.
-/

set_option autoImplicit false

namespace RuleTrace

/-- Records under their ids. -/
structure Store where
  entries : List (UInt32 × Record)
  capacity : Nat
  deriving DecidableEq, Repr

/-- The failure to put a new id into a full store. -/
structure StoreFull where
  capacity : Nat
  deriving DecidableEq, Repr

/-- The wording of the failure. -/
def StoreFull.message (e : StoreFull) : String :=
  "aggregation store full (" ++ String.ofList (Text.decimal e.capacity) ++ " entries)"

/-- The sum of two counts, at most the greatest word. -/
def addSaturating (a b : UInt64) : UInt64 :=
  if a.toNat + b.toNat < UInt64.size then a + b else UInt64.ofNat (UInt64.size - 1)

/-- The record standing for `n` more notifications. -/
def Record.counting (r : Record) (n : UInt64) : Record :=
  { r with count := addSaturating r.count n }

namespace Store

/-- The greatest capacity that a store can have. A store has a power of
two of places, one in eight of which is left free; a place takes 361
octets, and all of them must be fewer than `2 ^ 63`. -/
def greatestCapacity : Nat := 7 * Nat.pow 2 51

/-- A store without records. -/
def empty (capacity : Nat) : Store := ⟨[], capacity⟩

def size (s : Store) : Nat := s.entries.length

/-- The record under an id. -/
def get? (s : Store) (id : UInt32) : Option Record := s.entries.lookup id

/-- Whether there is a record under the id. -/
def contains (s : Store) (id : UInt32) : Bool := (s.get? id).isSome

/-- The store with the record under the id changed by `f`. -/
def replace (s : Store) (id : UInt32) (f : Record → Record) : Store :=
  { s with entries := s.entries.map fun e => if e.1 = id then (e.1, f e.2) else e }

/-- The store with the record under the id. -/
def insert (s : Store) (id : UInt32) (r : Record) : Except StoreFull Store :=
  if s.contains id then .ok (s.replace id fun _ => r)
  else if s.capacity ≤ s.size then .error ⟨s.capacity⟩
  else .ok { s with entries := s.entries ++ [(id, r)] }

/-- The store in which the record under the id counts `n` more, with
its new count, if there is such a record. -/
def increment? (s : Store) (id : UInt32) (n : UInt64) : Option (UInt64 × Store) :=
  (s.get? id).map fun r => ((r.counting n).count, s.replace id (·.counting n))

/-- The store without the id. -/
def erase (s : Store) (id : UInt32) : Store :=
  { s with entries := s.entries.filter fun e => e.1 ≠ id }

/-- The record under the id and the store without it. -/
def take (s : Store) (id : UInt32) : Option Record × Store :=
  (s.get? id, s.erase id)

end Store

end RuleTrace
