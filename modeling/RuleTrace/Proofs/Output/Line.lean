import RuleTrace.Output.Printer
import RuleTrace.Proofs.Json.Reader

/-!
# `RuleTrace.Proofs.Output.Line`: the count that a line shows

Whoever reads the output can tell how many notifications a line stands
for: in the text format it is the number after the last equals sign, in
the JSON format the member `cnt` of the object. `shownCount?` is such a
reader, which knows nothing of records. What it finds in a line is the
count that was printed, whatever the names, the addresses and the time
of the line are (`shownCount?_line`).
-/

set_option autoImplicit false

namespace RuleTrace

namespace View

/-- Members whose values are texts or numbers in range. -/
def Plain (ms : List (String × Json.Value)) : Prop := ∀ m ∈ ms, Json.Value.Readable 0 m.2

/-- Without members there is nothing to check. -/
@[simp] theorem plain_nil : Plain [] := List.forall_mem_nil _

/-- The first member is checked, and then the rest. -/
@[simp] theorem plain_cons (m : String × Json.Value) (ms : List (String × Json.Value)) :
    Plain (m :: ms) ↔ Json.Value.Readable 0 m.2 ∧ Plain ms := List.forall_mem_cons

/-- Members one after the other are checked each for themselves. -/
@[simp] theorem plain_append (ms ns : List (String × Json.Value)) :
    Plain (ms ++ ns) ↔ Plain ms ∧ Plain ns := List.forall_mem_append

/-- A text that may be left out is plain. -/
theorem plain_optionalText (key s : String) : Plain (optionalText key s) := by
  rw [optionalText]
  split
  · exact plain_nil
  · exact (plain_cons _ _).mpr ⟨trivial, plain_nil⟩

/-- A port that may be left out is plain. -/
theorem plain_optionalPort (key : String) (port : UInt16) : Plain (optionalPort key port) := by
  rw [optionalPort]
  split
  · exact plain_nil
  · exact (plain_cons _ _).mpr ⟨Nat.lt_trans port.toNat_lt (by decide), plain_nil⟩

/-- The object of a line is read back. -/
theorem readable_members (v : View) (stamp : String) (count : UInt64) :
    (Json.Value.object (v.members stamp count)).Readable 1 := by
  have hid : v.traceId.toNat < UInt64.size := Nat.lt_trans v.traceId.toNat_lt (by decide)
  have hlength : v.length.toNat < UInt64.size := Nat.lt_trans v.length.toNat_lt (by decide)
  have hhandle : v.handle.toNat < UInt64.size := v.handle.toNat_lt
  have hcount : count.toNat < UInt64.size := count.toNat_lt
  show Plain (v.members stamp count)
  simp [members, Json.Value.Readable, Json.Number.Fits, plain_optionalText, plain_optionalPort,
    hid, hlength, hhandle, hcount]

/-- The member for the count is found under its name. -/
theorem lookup_members_cnt (v : View) (stamp : String) (count : UInt64) :
    (v.members stamp count).lookup "cnt" = some (.number (.natural count.toNat)) := by
  have htext : ∀ key s, key ≠ "cnt" → (optionalText key s).lookup "cnt" = none := by
    intro key s hkey
    rw [optionalText]
    split
    · rfl
    · simp [hkey.symm]
  have hport : ∀ key port, key ≠ "cnt" → (optionalPort key port).lookup "cnt" = none := by
    intro key port hkey
    rw [optionalPort]
    split
    · rfl
    · simp [hkey.symm]
  -- No member before it has its name.
  simp [members, List.lookup_append, List.lookup_cons, htext, hport]

end View

/-- The count that a line shows, as a reader of the output finds it. -/
def shownCount? (format : OutputFormat) (line : List Char) : Option Nat :=
  match format with
  | .text => Text.nat? (line.reverse.takeWhile fun c => c ≠ '=').reverse
  | .json =>
    match Json.readAll (Json.readValue 1) line with
    | .ok (.object ms) =>
      match ms.lookup "cnt" with
      | some (.number (.natural n)) => some n
      | _ => none
    | _ => none

/-- A reader finds the count that was printed. -/
theorem shownCount?_line (format : OutputFormat) (stamp : UInt64 → String) (h : Held) :
    shownCount? format (Printer.line format stamp h) = some h.count.toNat := by
  cases format with
  | text =>
    -- Read from its end, the line has the digits of the count and then an equals sign.
    have hdigits : ∀ c ∈ (Text.decimal h.count.toNat).reverse, decide (c ≠ '=') = true := by
      intro c hc
      refine decide_eq_true ?_
      rintro rfl
      exact absurd (Text.isDigit_of_mem_decimal (List.mem_reverse.mp hc)) (by decide)
    have hline : (Printer.line .text stamp h).reverse
        = (Text.decimal h.count.toNat).reverse
          ++ '=' :: ('[' :: (stamp h.time).toList ++ "] ".toList ++ h.view.textBody
            ++ " cnt".toList).reverse := by
      simp [Printer.line, View.textLine]
    rw [shownCount?, hline, List.takeWhile_append_of_pos hdigits]
    simp [Text.nat?_decimal]
  | json =>
    have hread := Json.readAll_render (h.view.readable_members (stamp h.time) h.count)
    have hline : Printer.line .json stamp h
        = (Json.Value.object (h.view.members (stamp h.time) h.count)).render := rfl
    rw [shownCount?, hline, hread]
    simp only [View.lookup_members_cnt]

/-- The sum of the counts that lines show, if each of them shows one. -/
def shownTotal? (format : OutputFormat) : List (List Char) → Option Nat
  | [] => some 0
  | line :: lines =>
    match shownCount? format line, shownTotal? format lines with
    | some n, some m => some (n + m)
    | _, _ => none

/-- One more line adds the count that was printed. -/
theorem shownTotal?_concat {format : OutputFormat} {lines : List (List Char)} {n : Nat}
    (hlines : shownTotal? format lines = some n) (stamp : UInt64 → String) (h : Held) :
    shownTotal? format (lines ++ [Printer.line format stamp h]) = some (n + h.count.toNat) := by
  induction lines generalizing n with
  | nil =>
    cases hlines
    rw [List.nil_append, shownTotal?, shownCount?_line]
    exact congrArg some (Nat.add_comm _ 0)
  | cons line lines ih =>
    rw [shownTotal?] at hlines
    rw [List.cons_append, shownTotal?]
    -- The lines before it show their counts, or there was no sum.
    split at hlines
    · rename_i n m hline hrest
      cases hlines
      rw [hline, ih hrest]
      exact congrArg some (Nat.add_assoc ..).symm
    · cases hlines

end RuleTrace
