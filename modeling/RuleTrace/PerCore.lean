/-!
# `RuleTrace.PerCore`: one value for each core

A table with one slot per core. There is at least one slot and at most
`coreLimit`; a table for any other number of cores has the nearest
number of slots that is allowed.
-/

set_option autoImplicit false

namespace RuleTrace

/-- The greatest number of slots. -/
def coreLimit : Nat := 128

/-- The number of slots for a number of cores. -/
def slotCount (cores : Nat) : Nat := min (max cores 1) coreLimit

/-- One value for each core. -/
structure PerCore (α : Type) where
  slots : List α
  slots_ne_nil : slots ≠ []
  length_slots : slots.length ≤ coreLimit

namespace PerCore

variable {α : Type}

/-- There is a slot even when no core was found. -/
theorem slotCount_pos (cores : Nat) : 0 < slotCount cores := by
  unfold slotCount coreLimit
  omega

/-- However many cores there are, the table is bounded. -/
theorem slotCount_le (cores : Nat) : slotCount cores ≤ coreLimit := by
  unfold slotCount
  omega

/-- A table for `cores` cores, filled by core number. -/
def build (cores : Nat) (value : Nat → α) : PerCore α where
  slots := (List.range (slotCount cores)).map value
  slots_ne_nil := by
    have h := slotCount_pos cores
    intro h'
    have := congrArg List.length h'
    simp at this
    omega
  length_slots := by simpa using slotCount_le cores

/-- The number of slots. -/
def size (t : PerCore α) : Nat := t.slots.length

/-- The value for a core that has one. -/
def get? (t : PerCore α) (core : Nat) : Option α := t.slots[core]?

/-- The table with another value for one core; nothing changes for a
core without a slot. -/
def set (t : PerCore α) (core : Nat) (value : α) : PerCore α where
  slots := t.slots.set core value
  slots_ne_nil := by simpa using t.slots_ne_nil
  length_slots := by simpa using t.length_slots

/-- The table with each value changed, by core number. -/
def mapIdx (t : PerCore α) (f : Nat → α → α) : PerCore α where
  slots := t.slots.mapIdx f
  slots_ne_nil := by simpa using t.slots_ne_nil
  length_slots := by simpa using t.length_slots

/-- The values with their core numbers, in order. -/
def toList (t : PerCore α) : List (Nat × α) :=
  t.slots.zipIdx.map fun (value, core) => (core, value)

end PerCore

end RuleTrace
