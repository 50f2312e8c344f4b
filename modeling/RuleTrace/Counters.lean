import RuleTrace.Text.Numeral
import RuleTrace.Text.Quoted

/-!
# `RuleTrace.Counters`: what happened to the notifications

Twelve counters say what became of the notifications. They only grow,
as 64-bit words that wrap. To see the growth since an earlier moment,
the counters of then are kept and subtracted (`Counters.since`).
-/

set_option autoImplicit false

namespace RuleTrace

/-- What is counted. -/
inductive Counter where
  /-- rule matches that reached the sampler -/
  | packetsSeen
  /-- notifications of another kind, not sampled -/
  | filtered
  | sampledOut
  /-- new records put into a store -/
  | aggregated
  /-- rule matches folded into a stored record -/
  | merged
  /-- records sent straight to the output -/
  | directEmitted
  | flushed
  /-- waiting ids whose record was gone -/
  | flushMiss
  /-- rule matches that could not be aggregated -/
  | writeWait
  /-- flush passes that could not reach their slot -/
  | readWait
  | outputDropped
  /-- locks given up on -/
  | lockContended
  deriving DecidableEq, Repr

namespace Counter

def name : Counter → String
  | packetsSeen => "packets_seen"
  | filtered => "filtered"
  | sampledOut => "sampled_out"
  | aggregated => "aggregated"
  | merged => "merged"
  | directEmitted => "direct_emitted"
  | flushed => "flushed"
  | flushMiss => "flush_miss"
  | writeWait => "write_wait"
  | readWait => "read_wait"
  | outputDropped => "output_dropped"
  | lockContended => "lock_contended"

/-- The place of a counter among the twelve. -/
def index : Counter → Fin 12
  | packetsSeen => 0
  | filtered => 1
  | sampledOut => 2
  | aggregated => 3
  | merged => 4
  | directEmitted => 5
  | flushed => 6
  | flushMiss => 7
  | writeWait => 8
  | readWait => 9
  | outputDropped => 10
  | lockContended => 11

/-- All counters by place. -/
def all : List Counter :=
  [packetsSeen, filtered, sampledOut, aggregated, merged, directEmitted, flushed, flushMiss,
   writeWait, readWait, outputDropped, lockContended]

/-- No two counters have the same place. -/
theorem index_injective {a b : Counter} (h : a.index = b.index) : a = b := by
  cases a <;> cases b <;> first | rfl | (exact absurd h (by decide))

end Counter

/-- The values of all counters. -/
structure Counters where
  values : Vector UInt64 12
  deriving DecidableEq, Repr

namespace Counters

/-- All counters at zero. -/
def zero : Counters := ⟨Vector.replicate 12 0⟩

instance : Inhabited Counters := ⟨zero⟩

/-- The value of one counter. -/
def get (c : Counters) (k : Counter) : UInt64 := c.values[k.index]

/-- The counters after one of them grew by `n`. -/
def add (c : Counters) (k : Counter) (n : UInt64) : Counters :=
  ⟨c.values.set k.index (c.get k + n) k.index.isLt⟩

/-- The counters after one of them grew by one. -/
def bump (c : Counters) (k : Counter) : Counters := c.add k 1

/-- The growth of one word since an earlier value, zero if it did not
grow. -/
def growth (now before : UInt64) : UInt64 := if before ≤ now then now - before else 0

/-- The growth of every counter since an earlier moment. -/
def since (now before : Counters) : Counters :=
  ⟨Vector.zipWith growth now.values before.values⟩

/-- Whether all counters are zero. -/
def isZero (c : Counters) : Bool := c.values.toList.all (· == 0)

/-- The counters with their values, by place. -/
def toList (c : Counters) : List (Counter × UInt64) := Counter.all.map fun k => (k, c.get k)

/-- The diagnostic text. -/
def debugText (c : Counters) : String :=
  let entry : Counter × UInt64 → List Char := fun (k, v) =>
    Text.quoted k.name.toList ++ ": ".toList ++ Text.decimal v.toNat
  String.ofList ('\x7b' :: ", ".toList.intercalate (c.toList.map entry) ++ ['\x7d'])

/-- A counter that grows, grows by what is added. -/
@[simp] theorem get_add_self (c : Counters) (k : Counter) (n : UInt64) :
    (c.add k n).get k = c.get k + n := by
  simp [add, get]

/-- The other counters stay as they are. -/
theorem get_add_of_ne (c : Counters) {k j : Counter} (n : UInt64) (h : k ≠ j) :
    (c.add k n).get j = c.get j := by
  have : (k.index : Nat) ≠ j.index := fun h' => h (Counter.index_injective (Fin.ext h'))
  simp [add, get, Vector.getElem_set_ne, this]

/-- Growing by one changes one counter and leaves the others. -/
theorem get_bump (c : Counters) (k j : Counter) :
    (c.bump k).get j = if k = j then c.get j + 1 else c.get j := by
  by_cases h : k = j
  · rw [if_pos h, bump, h, get_add_self]
  · rw [if_neg h, bump, get_add_of_ne c 1 h]

end Counters

end RuleTrace
