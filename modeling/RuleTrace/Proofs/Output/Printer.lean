import RuleTrace.Proofs.Output.Line
import RuleTrace.Proofs.Tally

/-!
# `RuleTrace.Proofs.Output.Printer`: a printer prints every count

A printer is used by calls, one in each turn, and with each turn comes
the way in which times are shown then (`Printer.Turn`). Whether a line
is written is for the sink to say (`emit_of_taken`, `emit_of_refused`).

The counts that the lines show and the count that is held add up to a
number, the balance of the printer (`Printer.Balance`). A line that is
written or folded brings its count into the balance, and a line that is
held and then written leaves it as it is.

With a sink that never refuses, all records that a printer was given
are in its lines, but for those in the line that it holds back. The
invariant is `Printer.Shows`. Writing a record adds its count to the
balance, whether the record is folded or begins a line; a flush changes
the balance not at all and holds nothing back.

The count that is held saturates. As long as the number itself is below
the greatest word, no count that is part of it does.
-/

set_option autoImplicit false

namespace RuleTrace.Printer

/-! ### Uses of a printer -/

/-- A use of a printer. -/
inductive Call where
  | write (r : Record)
  | flush

/-- A use of a printer, with the text that a time has at that moment. -/
structure Turn where
  call : Call
  stamp : UInt64 → String

/-- What the printer answers, and the printer after the turn. -/
def Turn.perform (t : Turn) (p : Printer) : Except PrintError Unit × Printer :=
  match t.call with
  | .write r => p.write t.stamp r
  | .flush => p.flush t.stamp

/-- The printer after turns. -/
def afterAll (p : Printer) (turns : List Turn) : Printer :=
  turns.foldl (fun p t => (t.perform p).2) p

section
variable {p : Printer} (stamp : UInt64 → String)

/-- A sink that takes the line has one line more. -/
theorem emit_of_taken (h : Held) (htakes : p.sink.writeFault = none) :
    p.emit stamp h = (.ok (), { p with
      sink := { p.sink with lines := p.sink.lines ++ [line p.format stamp h] }
      count := p.count + 1 }) := by
  simp only [emit, Sink.write, htakes]

/-- A sink that refuses the line leaves the printer as it is. -/
theorem emit_of_refused (h : Held) {cause : String} (hrefuses : p.sink.writeFault = some cause) :
    p.emit stamp h = (.error (refused p.format cause), p) := by
  simp only [emit, Sink.write, hrefuses]

/-- Without a line that is held there is nothing to write. -/
theorem emitHeld_of_none (hnone : p.held = none) : p.emitHeld stamp = (.ok (), p) := by
  unfold emitHeld
  rw [hnone]

/-- A record with the key of the line that is held is folded into it. -/
theorem write_of_same {r : Record} {h : Held}
    (hfold : (p.held.filter fun h => h.key = (hold p.format r).key) = some h) :
    p.write stamp r = (.ok (),
      { p with held := some { h with count := addSaturating h.count r.count } }) := by
  simp only [write, hfold]

/-- Any other record begins a line, once the line that is held is
written. -/
theorem write_of_other {r : Record} {q : Printer}
    (hfold : (p.held.filter fun h => h.key = (hold p.format r).key) = none)
    (hemit : p.emitHeld stamp = (.ok (), q)) :
    p.write stamp r = q.begin stamp (hold p.format r) := by
  simp only [write, hfold, hemit]

/-- When the line that is held is refused, so is the record. -/
theorem write_of_unwritten {r : Record} {e : PrintError} {q : Printer}
    (hfold : (p.held.filter fun h => h.key = (hold p.format r).key) = none)
    (hemit : p.emitHeld stamp = (.error e, q)) : p.write stamp r = (.error e, q) := by
  simp only [write, hfold, hemit]

/-- A printer that does not fold writes a record at once. -/
theorem write_of_not_folding (hfolding : p.folding = false) (hnone : p.held = none) (r : Record) :
    p.write stamp r = p.emit stamp (hold p.format r) := by
  have hfold : (p.held.filter fun h => h.key = (hold p.format r).key) = none := by
    simp [hnone]
  rw [write_of_other stamp hfold (emitHeld_of_none stamp hnone), begin, if_neg (by simp [hfolding])]

end

/-! ### What the lines show -/

/-- How many notifications the line stands for that is held back. -/
def heldCount (p : Printer) : Nat := (p.held.map fun h => h.count.toNat).getD 0

/-- Where no line is held back, none counts. -/
theorem heldCount_of_eq_none {p : Printer} (h : p.held = none) : p.heldCount = 0 := by
  rw [heldCount, h]
  rfl

/-- The lines with the one that is held show so many notifications. -/
structure Balance (format : OutputFormat) (n : Nat) (p : Printer) : Prop where
  format_eq : p.format = format
  total : ∃ m, shownTotal? format p.sink.lines = some m ∧ m + p.heldCount = n

namespace Balance

variable {format : OutputFormat} {n : Nat} {p : Printer} (hp : p.Balance format n)
  (stamp : UInt64 → String)
include hp

/-- A line that is given up leaves the balance with its count. -/
theorem drop {h : Held} (hheld : p.held = some h) :
    ∃ m, { p with held := none }.Balance format m ∧ m + h.count.toNat = n := by
  obtain ⟨hformat, m, hm, hn⟩ := hp
  have hcount : p.heldCount = h.count.toNat := by
    rw [heldCount, hheld]
    rfl
  rw [hcount] at hn
  exact ⟨m, ⟨hformat, m, hm, rfl⟩, hn⟩

/-- A line that is written comes into the balance with its count. -/
theorem emit (htakes : p.sink.writeFault = none) (h : Held) :
    ∃ q, p.emit stamp h = (.ok (), q) ∧ q.held = p.held ∧
      q.sink.writeFault = p.sink.writeFault ∧ q.sink.flushFault = p.sink.flushFault ∧
      q.Balance format (n + h.count.toNat) := by
  obtain ⟨hformat, m, hm, hn⟩ := hp
  rw [emit_of_taken stamp h htakes]
  refine ⟨_, rfl, rfl, rfl, rfl, hformat, m + h.count.toNat, ?_, ?_⟩
  · rw [hformat]
    exact shownTotal?_concat hm stamp h
  · show m + h.count.toNat + p.heldCount = _
    omega

/-- When nothing is held or the sink takes the line, the balance stays
and nothing is held. -/
theorem emitHeld (hkept : p.held = none ∨ p.sink.writeFault = none) :
    ∃ q, p.emitHeld stamp = (.ok (), q) ∧ q.held = none ∧
      q.sink.writeFault = p.sink.writeFault ∧ q.sink.flushFault = p.sink.flushFault ∧
      q.Balance format n := by
  cases hheld : p.held with
  | none => exact ⟨p, emitHeld_of_none stamp hheld, hheld, rfl, rfl, hp⟩
  | some h =>
    -- The line is given up first, with its count, and then written.
    have htakes : p.sink.writeFault = none := by simpa [hheld] using hkept
    obtain ⟨m, hgiven, rfl⟩ := hp.drop hheld
    rw [Printer.emitHeld, hheld]
    exact hgiven.emit stamp htakes h

/-- A record that begins a line comes into the balance, unless the sink
refuses the line. -/
theorem begin (hnone : p.held = none) (h : Held) :
    (∃ q, p.begin stamp h = (.ok (), q) ∧ q.sink.writeFault = p.sink.writeFault ∧
      q.sink.flushFault = p.sink.flushFault ∧ q.Balance format (n + h.count.toNat)) ∨
    (∃ cause, p.sink.writeFault = some cause ∧
      p.begin stamp h = (.error (refused p.format cause), p)) := by
  rw [Printer.begin]
  by_cases hfolding : p.folding
  · obtain ⟨hformat, m, hm, hn⟩ := hp
    rw [heldCount_of_eq_none hnone] at hn
    rw [if_pos hfolding]
    exact .inl ⟨_, rfl, rfl, rfl, hformat, m, hm, congrArg (· + h.count.toNat) hn⟩
  · rw [if_neg hfolding]
    cases hfault : p.sink.writeFault with
    | none =>
      obtain ⟨q, hq, -, hwrite, hflush, hbalance⟩ := hp.emit stamp hfault h
      exact .inl ⟨q, hq, hwrite.trans hfault, hflush, hbalance⟩
    | some cause => exact .inr ⟨cause, rfl, emit_of_refused stamp h hfault⟩

/-- A record with the key of the line that is held comes into the balance
with its count, but for what saturation cuts off. -/
theorem fold {h : Held} (hheld : p.held = some h) (count : UInt64) :
    h.count.toNat ≤ n ∧
    ∃ m, { p with held := some { h with count := addSaturating h.count count } }.Balance format m ∧
      m + (h.count.toNat + count.toNat - (UInt64.size - 1)) = n + count.toNat := by
  obtain ⟨m, ⟨hformat, m, hm, rfl⟩, rfl⟩ := hp.drop hheld
  have hnone : heldCount { p with held := none } = 0 := heldCount_of_eq_none rfl
  refine ⟨by omega, m + (addSaturating h.count count).toNat, ⟨hformat, m, hm, rfl⟩, ?_⟩
  rw [toNat_addSaturating, hnone]
  omega

end Balance

/-! ### A sink that never refuses -/

/-- The sink never refuses, and the lines with the one that is held
show so many notifications. -/
structure Shows (format : OutputFormat) (n : Nat) (p : Printer) : Prop where
  format_eq : p.format = format
  writeFault_eq : p.sink.writeFault = none
  flushFault_eq : p.sink.flushFault = none
  total : ∃ m, shownTotal? format p.sink.lines = some m ∧ m + p.heldCount = n

/-- A new printer shows nothing. -/
theorem shows_new (format : OutputFormat) (folding : Bool) :
    (new format folding .empty).Shows format 0 :=
  ⟨rfl, rfl, rfl, 0, rfl, rfl⟩

namespace Shows

variable {format : OutputFormat} {n : Nat} {p : Printer} (hp : p.Shows format n)
  (stamp : UInt64 → String)
include hp

/-- A printer that shows so many notifications has them as its balance. -/
theorem balance : p.Balance format n := ⟨hp.format_eq, hp.total⟩

/-- A change of the balance alone leaves the sink as willing as it was. -/
theorem of_balance {m : Nat} {q : Printer} (hwrite : q.sink.writeFault = p.sink.writeFault)
    (hflush : q.sink.flushFault = p.sink.flushFault) (hq : q.Balance format m) :
    q.Shows format m :=
  ⟨hq.format_eq, hwrite.trans hp.writeFault_eq, hflush.trans hp.flushFault_eq, hq.total⟩

/-- A line that is held is written, and the number stays. -/
theorem emitHeld :
    ∃ q, p.emitHeld stamp = (.ok (), q) ∧ q.held = none ∧ q.Shows format n := by
  obtain ⟨q, hq, hnone, hwrite, hflush, hbalance⟩ :=
    hp.balance.emitHeld stamp (.inr hp.writeFault_eq)
  exact ⟨q, hq, hnone, hp.of_balance hwrite hflush hbalance⟩

/-- A new line adds its count, whether it is held or written. -/
theorem begin (hheld : p.held = none) (h : Held) :
    ∃ q, p.begin stamp h = (.ok (), q) ∧ q.Shows format (n + h.count.toNat) := by
  rcases hp.balance.begin stamp hheld h with
    ⟨q, hq, hwrite, hflush, hbalance⟩ | ⟨cause, hrefuses, -⟩
  · exact ⟨q, hq, hp.of_balance hwrite hflush hbalance⟩
  · rw [hp.writeFault_eq] at hrefuses
    cases hrefuses

/-- A record that is written adds its count. -/
theorem write {r : Record} (hfits : n + r.count.toNat < UInt64.size) :
    ∃ q, p.write stamp r = (.ok (), q) ∧ q.Shows format (n + r.count.toNat) := by
  cases hfold : p.held.filter fun h => h.key = (hold p.format r).key with
  | some h =>
    -- The record is folded into the line that is held, whose count does not saturate.
    obtain ⟨hle, m, hbalance, hm⟩ :=
      hp.balance.fold (Option.filter_eq_some_iff.mp hfold).1 r.count
    have hm : m = n + r.count.toNat := by omega
    rw [write_of_same stamp hfold, ← hm]
    exact ⟨_, rfl, hp.of_balance rfl rfl hbalance⟩
  | none =>
    obtain ⟨q, hq, hnone, hshows⟩ := hp.emitHeld stamp
    rw [write_of_other stamp hfold hq]
    exact hshows.begin stamp hnone (hold p.format r)

/-- A flush writes what is held, and the number stays. -/
theorem flush :
    ∃ q, p.flush stamp = (.ok (), q) ∧ q.held = none ∧ q.Shows format n := by
  obtain ⟨q, hq, hnone, hshows⟩ := hp.emitHeld stamp
  rw [Printer.flush, hq]
  dsimp only
  rw [hshows.flushFault_eq]
  exact ⟨q, rfl, hnone, hshows⟩

/-- A printer that holds nothing back shows the number in its lines. -/
theorem shownTotal?_eq (hheld : p.held = none) : shownTotal? format p.sink.lines = some n := by
  obtain ⟨m, hm, hn⟩ := hp.total
  rw [heldCount_of_eq_none hheld] at hn
  rw [hm, ← hn, Nat.add_zero]

end Shows

end RuleTrace.Printer
