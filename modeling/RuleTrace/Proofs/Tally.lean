import RuleTrace.Aggregation.Store

/-!
# `RuleTrace.Proofs.Tally`: adding up over records

Statements about what is lost or gained say that two sums over records
agree. `tally f` is such a sum, for any measure `f` of a record: one
for each record gives the number of them, and `credit keep` gives the
notifications that they stand for, of the ids that `keep` selects.

Records lie in tables: the slots of the cores, the lanes of the output.
An operation replaces one entry of the table, and
`tally_flatMap_set` is the only fact about tables that the sums
need.
-/

set_option autoImplicit false

namespace RuleTrace

/-- The sum of a measure over records. -/
def tally (f : Record → Nat) : List Record → Nat
  | [] => 0
  | r :: rs => f r + tally f rs

/-- Without records the sum is zero. -/
@[simp] theorem tally_nil (f : Record → Nat) : tally f [] = 0 := rfl

/-- The measure of the first record comes on top of the rest. -/
@[simp] theorem tally_cons (f : Record → Nat) (r : Record) (rs : List Record) :
    tally f (r :: rs) = f r + tally f rs := rfl

/-- The sum over two lists one after the other is the sum of the sums. -/
@[simp] theorem tally_append (f : Record → Nat) (rs ss : List Record) :
    tally f (rs ++ ss) = tally f rs + tally f ss := by
  induction rs with
  | nil => simp
  | cons r rs ih => rw [List.cons_append, tally_cons, tally_cons, ih, Nat.add_assoc]

/-- One for each record gives their number. -/
theorem tally_one (rs : List Record) : tally (fun _ => 1) rs = rs.length := by
  induction rs with
  | nil => rfl
  | cons r rs ih => rw [tally_cons, ih, List.length_cons, Nat.add_comm]

/-- A record measures no more than all of them together. -/
theorem le_tally_of_mem (f : Record → Nat) {r : Record} {rs : List Record} (h : r ∈ rs) :
    f r ≤ tally f rs := by
  induction rs with
  | nil => cases h
  | cons s rs ih =>
    rw [tally_cons]
    rcases List.mem_cons.mp h with rfl | h
    · omega
    · have := ih h
      omega

/-- A sum is zero only if each record measures zero. -/
theorem tally_eq_zero_iff (f : Record → Nat) (rs : List Record) :
    tally f rs = 0 ↔ ∀ r ∈ rs, f r = 0 := by
  induction rs with
  | nil => simp
  | cons r rs ih => rw [tally_cons, Nat.add_eq_zero_iff, ih, List.forall_mem_cons]

/-- Replacing one entry of a table: its records leave the sum and those
of the new entry come in. -/
theorem tally_flatMap_set {α : Type} (f : Record → Nat) (g : α → List Record) {xs : List α}
    {i : Nat} {x : α} (y : α) (h : xs[i]? = some x) :
    tally f ((xs.set i y).flatMap g) + tally f (g x) = tally f (xs.flatMap g) + tally f (g y) := by
  induction xs generalizing i with
  | nil => simp at h
  -- The entry is the first of the table, or it is one of the rest.
  | cons z xs ih =>
    cases i with
    | zero =>
      -- The first entry is replaced, and the others stay.
      rw [List.getElem?_cons_zero, Option.some.injEq] at h
      subst h
      simp only [List.set_cons_zero, List.flatMap_cons, tally_append]
      omega
    | succ i =>
      rw [List.getElem?_cons_succ] at h
      have := ih h
      simp only [List.set_cons_succ, List.flatMap_cons, tally_append]
      omega

/-! ### Notifications that a record stands for -/

/-- How many notifications a record stands for, if its id is
selected. -/
def credit (keep : UInt32 → Bool) (r : Record) : Nat := if keep r.id then r.count.toNat else 0

/-- How many notifications records stand for. -/
def counted (rs : List Record) : Nat := tally (fun r => r.count.toNat) rs

/-- The first record stands for its count. -/
@[simp] theorem counted_cons (r : Record) (rs : List Record) :
    counted (r :: rs) = r.count.toNat + counted rs := rfl

/-- Two lists of records stand for what each of them stands for. -/
@[simp] theorem counted_append (rs ss : List Record) :
    counted (rs ++ ss) = counted rs + counted ss := tally_append ..

/-- The records of the selected ids stand for what is credited to
them. -/
theorem counted_filter (keep : UInt32 → Bool) (rs : List Record) :
    counted (rs.filter fun r => keep r.id) = tally (credit keep) rs := by
  induction rs with
  | nil => rfl
  | cons r rs ih =>
    rw [tally_cons, credit, ← ih, List.filter_cons]
    by_cases hkeep : keep r.id
    · rw [if_pos hkeep, if_pos hkeep, counted_cons]
    · rw [if_neg hkeep, if_neg hkeep, Nat.zero_add]

/-- All ids are credited with all that is counted. -/
theorem tally_credit_all (rs : List Record) : tally (credit fun _ => true) rs = counted rs := by
  rw [← counted_filter, List.filter_eq_self.mpr fun _ _ => rfl]

/-- Below the greatest word a saturating sum is the sum. -/
theorem toNat_addSaturating (a b : UInt64) :
    (addSaturating a b).toNat = min (a.toNat + b.toNat) (UInt64.size - 1) := by
  have ha := a.toNat_lt
  have hb := b.toNat_lt
  -- The sum of the words is less than a summand just when it wraps.
  rw [addSaturating]
  split
  · rw [UInt64.toNat_add]
    simp only [UInt64.size] at *
    omega
  · rw [UInt64.toNat_ofNat']
    simp only [UInt64.size] at *
    omega

/-- A record that counts one more stands for one more notification, as
long as its count does not saturate. -/
theorem credit_counting {keep : UInt32 → Bool} {r : Record} (hkeep : keep r.id)
    (h : r.count.toNat + 1 < UInt64.size) :
    credit keep (r.counting 1) = credit keep r + 1 := by
  have hid : (r.counting 1).id = r.id := rfl
  have hcount : (r.counting 1).count = addSaturating r.count 1 := rfl
  rw [credit, credit, hid, if_pos hkeep, if_pos hkeep, hcount, toNat_addSaturating,
    UInt64.toNat_one]
  omega

/-- Counting an id that is not selected changes nothing. -/
theorem credit_counting_of_not {keep : UInt32 → Bool} {r : Record} (hkeep : ¬ keep r.id) :
    credit keep (r.counting 1) = credit keep r := by
  have hid : (r.counting 1).id = r.id := rfl
  rw [credit, credit, hid, if_neg hkeep, if_neg hkeep]

end RuleTrace
