import RuleTrace.Text.Blank
import RuleTrace.Text.Numeral
import RuleTrace.Text.Split

/-!
# `RuleTrace.CpuList`: counting the processors of a list

A list of processors is written as numbers and ranges between commas,
as in `0-3,8,10-11`. `CpuList.count` says how many it names. Blank
parts are skipped; the list must name at least one processor. The total
stops at the greatest 32-bit word. The size of a range is computed as
such a word before that, and for one range it does not fit: whoever
counts it comes to grief (`Answer.overflow`), wherever the range stands
in a list that is well written up to there.
-/

set_option autoImplicit false

namespace RuleTrace.CpuList

/-- What counting a list, or one part of it, comes to. -/
inductive Answer where
  | counted (n : Nat)
  /-- it is no list, or names no processor -/
  | refused
  /-- the size of a range is no 32-bit word, which is an accident and is
  not told -/
  | overflow
  deriving DecidableEq, Repr

/-- The number of processors in a range. -/
def rangeSize (first last : Nat) : Answer :=
  if last < first then .refused
  else if last - first + 1 < UInt32.size then .counted (last - first + 1)
  else .overflow

/-- The number of processors that one part names. -/
def partSize (part : List Char) : Answer :=
  match Text.splitOnce '-' part with
  | some (first, last) =>
    match Text.word32? (Text.trim first), Text.word32? (Text.trim last) with
    | some first, some last => rangeSize first last
    | _, _ => .refused
  | none => if (Text.word32? part).isSome then .counted 1 else .refused

/-- The parts of a list that are not blank, without the blanks around
them. -/
def parts (s : List Char) : List (List Char) :=
  ((Text.splitOn ',' s).map Text.trim).filter (!·.isEmpty)

/-- The sum of two counts, at most the greatest word. -/
def addCounts (a b : Nat) : Nat := min (a + b) (UInt32.size - 1)

/-- Adds the sizes of parts to a total, up to the first part that has
none. -/
def countParts (total : Nat) : List (List Char) → Answer
  | [] => if total = 0 then .refused else .counted total
  | part :: rest =>
    match partSize part with
    | .counted n => countParts (addCounts total n) rest
    | .refused => .refused
    | .overflow => .overflow

/-- The number of processors that a list names. -/
def count (s : List Char) : Answer := countParts 0 (parts s)

end RuleTrace.CpuList
