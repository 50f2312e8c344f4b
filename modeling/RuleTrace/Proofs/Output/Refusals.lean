import RuleTrace.Proofs.Output.Printer

/-!
# `RuleTrace.Proofs.Output.Refusals`: what a printer loses when its sink refuses

A sink may refuse a line at one time and take the next. A printer that
holds a line gives it up before it tries to write it, and it does not
take it back when the sink refuses. So a record that was accepted, with
its count in the line that was held, is neither shown nor held from then
on.

`Printer.Account` keeps, beside the printer, the records that were
accepted and the lines that were dropped in this way. One turn changes
the account so that it stays balanced (`Balance.perform`): what is
accepted comes in; what is dropped, and what saturation cuts off from a
sum, goes out. Hence what is shown and held is what was accepted if and
only if no count was dropped or cut off (`refused_lines_are_dropped`),
and a flush that is refused is enough to drop one
(`refused_flush_drops_count`).

A refused record is not accepted, so it may be written once more. What
is lost is never the record that was refused, but what was held before
it.
-/

set_option autoImplicit false

namespace RuleTrace.Printer

/-! ### What is accepted, and what is not kept -/

/-- The record of a call. -/
def Call.record? : Call → Option Record
  | .write r => some r
  | .flush => none

/-- The record that a printer accepts in a turn. -/
def Turn.accepted (t : Turn) (p : Printer) : Option Record :=
  match (t.perform p).1 with
  | .ok _ => t.call.record?
  | .error _ => none

/-- The line that is held and that a call must write before all else. A
record with its key leaves it held. -/
def due (p : Printer) : Call → Option Held
  | .write r => p.held.filter fun h => h.key ≠ (hold p.format r).key
  | .flush => p.held

/-- The line that a call drops: it is due, and the sink refuses it. -/
def dropped (p : Printer) (c : Call) : Option Held :=
  if p.sink.writeFault.isSome then p.due c else none

/-- What the greatest word cuts off from the count that is held, when a
call adds to it. -/
def clipped (p : Printer) : Call → Nat
  | .write r =>
    match p.held.filter fun h => h.key = (hold p.format r).key with
    | some h => h.count.toNat + r.count.toNat - (UInt64.size - 1)
    | none => 0
  | .flush => 0

/-- How many notifications lines stand for. -/
def standing : List Held → Nat
  | [] => 0
  | h :: hs => h.count.toNat + standing hs

/-- What lines stand for adds up. -/
@[simp] theorem standing_append (hs gs : List Held) :
    standing (hs ++ gs) = standing hs + standing gs := by
  induction hs with
  | nil => simp [standing]
  | cons h hs ih => rw [List.cons_append, standing, standing, ih, Nat.add_assoc]

section
variable {p : Printer}

/-- Where nothing is held, nothing is dropped or cut off. -/
theorem dropped_clipped_of_held_eq_none (hnone : p.held = none) (c : Call) :
    p.dropped c = none ∧ p.clipped c = 0 := by
  unfold dropped
  cases c with
  | write r => simp [due, clipped, hnone]
  | flush => simp [due, clipped, hnone]

/-- A record that begins a line makes the line due that is held. -/
theorem due_of_other {r : Record}
    (hfold : (p.held.filter fun h => h.key = (hold p.format r).key) = none) :
    p.due (.write r) = p.held := by
  unfold due
  cases hheld : p.held with
  | none => rfl
  | some h =>
    have hkey := Option.filter_eq_none_iff.mp hfold h hheld
    exact if_pos (by simpa using hkey)

end

/-! ### One turn -/

namespace Balance

variable {format : OutputFormat} {n : Nat} {p : Printer} (hp : p.Balance format n)
  (stamp : UInt64 → String)
include hp

/-- A call that must write the line that is held either writes it, or
drops it because the sink refuses. -/
theorem clear {c : Call} (hdue : p.due c = p.held) :
    (∃ q, p.emitHeld stamp = (.ok (), q) ∧ q.held = none ∧ p.dropped c = none ∧
      q.Balance format n) ∨
    (∃ e q h m, p.emitHeld stamp = (.error e, q) ∧ p.dropped c = some h ∧
      q.Balance format m ∧ m + h.count.toNat = n) := by
  unfold dropped
  rw [hdue]
  cases hheld : p.held with
  | none =>
    obtain ⟨q, hq, hnone, -, -, hbalance⟩ := hp.emitHeld stamp (.inl hheld)
    exact .inl ⟨q, hq, hnone, ite_self none, hbalance⟩
  | some h =>
    -- The line is given up before the sink is asked, so a refusal leaves it nowhere.
    cases hfault : p.sink.writeFault with
    | none =>
      obtain ⟨q, hq, hnone, -, -, hbalance⟩ := hp.emitHeld stamp (.inr hfault)
      exact .inl ⟨q, hq, hnone, rfl, hbalance⟩
    | some cause =>
      obtain ⟨m, hgiven, hn⟩ := hp.drop hheld
      rw [Printer.emitHeld, hheld]
      exact .inr ⟨_, _, h, m, emit_of_refused stamp h hfault, rfl, hgiven, hn⟩

/-- Writing a record: the line that is held is written, or grows by the
record, or is dropped when the sink refuses it. -/
theorem write (r : Record) :
    ∃ m, (p.write stamp r).2.Balance format m ∧
      m + standing (p.dropped (.write r)).toList + p.clipped (.write r)
        = n + counted (Turn.accepted ⟨.write r, stamp⟩ p).toList := by
  unfold Turn.accepted Turn.perform
  dsimp only
  cases hfold : p.held.filter fun h => h.key = (hold p.format r).key with
  | some h =>
    -- The record is folded, so no line is due.
    obtain ⟨hheld, hkey⟩ := Option.filter_eq_some_iff.mp hfold
    obtain ⟨-, m, hm, hn⟩ := hp.fold hheld r.count
    have hdropped : p.dropped (.write r) = none := by
      simp [dropped, due, hheld, of_decide_eq_true hkey]
    have hclipped : p.clipped (.write r) = h.count.toNat + r.count.toNat - (UInt64.size - 1) := by
      rw [clipped, hfold]
    rw [write_of_same stamp hfold, hdropped, hclipped]
    exact ⟨m, hm, hn⟩
  | none =>
    have hclipped : p.clipped (.write r) = 0 := by
      rw [clipped, hfold]
    rw [hclipped]
    rcases hp.clear stamp (due_of_other hfold) with
      ⟨q, hq, hnone, hdropped, hbalance⟩ | ⟨e, q, h, m, hq, hdropped, hbalance, hn⟩
    · rw [write_of_other stamp hfold hq, hdropped]
      rcases hbalance.begin stamp hnone (hold p.format r) with
        ⟨q', hq', -, -, hbegun⟩ | ⟨cause, -, hq'⟩
      · rw [hq']
        exact ⟨_, hbegun, rfl⟩
      · -- The line of the record itself is refused, and nothing was held.
        rw [hq']
        exact ⟨n, hbalance, rfl⟩
    · -- The line that is held is refused, and the record is not looked at any more.
      rw [write_of_unwritten stamp hfold hq, hdropped]
      exact ⟨m, hbalance, hn⟩

/-- A flush accepts no record. The line that is held is written, or dropped
when the sink refuses it. -/
theorem flush :
    ∃ m, (p.flush stamp).2.Balance format m ∧
      m + standing (p.dropped .flush).toList + p.clipped .flush
        = n + counted (Turn.accepted ⟨.flush, stamp⟩ p).toList := by
  have haccepted : Turn.accepted ⟨.flush, stamp⟩ p = none := by
    unfold Turn.accepted
    split
    · rfl
    · rfl
  rw [haccepted, Printer.flush]
  rcases hp.clear stamp (c := .flush) rfl with
    ⟨q, hq, -, hdropped, hbalance⟩ | ⟨e, q, h, m, hq, hdropped, hbalance, hn⟩
  · rw [hq, hdropped]
    dsimp only
    split
    · exact ⟨n, hbalance, rfl⟩
    · exact ⟨n, hbalance, rfl⟩
  · -- The line that is held is refused before the sink is asked to flush.
    rw [hq, hdropped]
    exact ⟨m, hbalance, hn⟩

/-- One turn: an accepted record comes into the balance. A line that is
due and refused goes out, and so does what is cut off. -/
theorem perform (t : Turn) :
    ∃ m, (t.perform p).2.Balance format m ∧
      m + standing (p.dropped t.call).toList + p.clipped t.call
        = n + counted (t.accepted p).toList := by
  obtain ⟨call, stamp⟩ := t
  cases call with
  | write r => exact hp.write stamp r
  | flush => exact hp.flush stamp

end Balance

/-- A printer that does not fold never holds a line. -/
theorem perform_of_not_folding {p : Printer} (hfolding : p.folding = false) (hnone : p.held = none)
    (t : Turn) : (t.perform p).2.folding = false ∧ (t.perform p).2.held = none := by
  unfold Turn.perform
  cases t.call with
  | write r =>
    dsimp only
    rw [write_of_not_folding t.stamp hfolding hnone r]
    cases hfault : p.sink.writeFault with
    | none =>
      rw [emit_of_taken t.stamp _ hfault]
      exact ⟨hfolding, hnone⟩
    | some cause =>
      rw [emit_of_refused t.stamp _ hfault]
      exact ⟨hfolding, hnone⟩
  | flush =>
    dsimp only
    rw [flush, emitHeld_of_none t.stamp hnone]
    dsimp only
    split
    · exact ⟨hfolding, hnone⟩
    · exact ⟨hfolding, hnone⟩

/-! ### A history in which the sink may refuse -/

/-- A turn, and what the sink refuses in it. -/
structure Attempt extends Turn where
  writeFault : Option String
  flushFault : Option String

/-- The printer, with a sink that refuses as it does in the attempt. -/
def facing (p : Printer) (t : Attempt) : Printer :=
  { p with sink := { p.sink with writeFault := t.writeFault, flushFault := t.flushFault } }

/-- What has become of the records of a history. -/
structure Account where
  printer : Printer
  /-- the records whose writing was answered with success -/
  accepted : List Record
  /-- the lines that were dropped because the sink refused them -/
  lost : List Held
  /-- what the greatest word has cut off from sums of counts -/
  clipped : Nat

namespace Account

/-- The account of a printer that has done nothing. -/
def opened (format : OutputFormat) (folding : Bool) : Account :=
  ⟨new format folding .empty, [], [], 0⟩

/-- The account after one more attempt. -/
def after (a : Account) (t : Attempt) : Account :=
  let p := a.printer.facing t
  { printer := (t.toTurn.perform p).2
    accepted := a.accepted ++ (t.toTurn.accepted p).toList
    lost := a.lost ++ (p.dropped t.call).toList
    clipped := a.clipped + p.clipped t.call }

/-- The account after attempts. -/
def afterAll (a : Account) (ts : List Attempt) : Account := ts.foldl after a

/-- All that was accepted is shown, held, dropped or cut off. -/
def Balanced (format : OutputFormat) (a : Account) : Prop :=
  ∃ n, a.printer.Balance format n ∧ counted a.accepted = n + standing a.lost + a.clipped

/-- The account of a new printer is balanced, for nothing was accepted. -/
theorem balanced_opened (format : OutputFormat) (folding : Bool) :
    (opened format folding).Balanced format :=
  ⟨0, ⟨rfl, 0, rfl, rfl⟩, rfl⟩

section
variable {format : OutputFormat} {a : Account}

/-- One attempt keeps the account balanced, whatever the sink refuses in it. -/
theorem Balanced.after (h : a.Balanced format) (t : Attempt) : (a.after t).Balanced format := by
  obtain ⟨n, hbalance, hn⟩ := h
  -- What the sink refuses is no part of the balance.
  have hfacing : (a.printer.facing t).Balance format n := ⟨hbalance.format_eq, hbalance.total⟩
  obtain ⟨m, hm, hcounts⟩ := hfacing.perform t.toTurn
  refine ⟨m, hm, ?_⟩
  simp only [Account.after, counted_append, standing_append]
  omega

/-- However often the sink refuses, the account is balanced. -/
theorem Balanced.afterAll (h : a.Balanced format) (ts : List Attempt) :
    (a.afterAll ts).Balanced format := by
  induction ts generalizing a with
  | nil => exact h
  | cons t ts ih => exact ih (h.after t)

/-- The printer does not fold, holds nothing, has dropped nothing and
has cut nothing off. -/
structure Prompt (a : Account) : Prop where
  folding_eq : a.printer.folding = false
  held_eq : a.printer.held = none
  lost_eq : a.lost = []
  clipped_eq : a.clipped = 0

/-- One attempt leaves nothing held and drops nothing, for a printer that
does not fold has nothing to hold. -/
theorem Prompt.after (h : a.Prompt) (t : Attempt) : (a.after t).Prompt := by
  have hfolding : (a.printer.facing t).folding = false := h.folding_eq
  have hnone : (a.printer.facing t).held = none := h.held_eq
  obtain ⟨hdropped, hclipped⟩ := dropped_clipped_of_held_eq_none hnone t.call
  obtain ⟨hfolding, hheld⟩ := perform_of_not_folding hfolding hnone t.toTurn
  refine ⟨hfolding, hheld, ?_, ?_⟩
  · simp [Account.after, h.lost_eq, hdropped]
  · simp [Account.after, h.clipped_eq, hclipped]

/-- However often the sink refuses, a printer that does not fold drops
nothing that it accepted. -/
theorem Prompt.afterAll (h : a.Prompt) (ts : List Attempt) : (a.afterAll ts).Prompt := by
  induction ts generalizing a with
  | nil => exact h
  | cons t ts ih => exact ih (h.after t)

/-- Where the sink takes every line, nothing is dropped. -/
theorem lost_afterAll_of_taken {ts : List Attempt} (htakes : ∀ t ∈ ts, t.writeFault = none) :
    (a.afterAll ts).lost = a.lost := by
  induction ts generalizing a with
  | nil => rfl
  | cons t ts ih =>
    obtain ⟨ht, hts⟩ := List.forall_mem_cons.mp htakes
    have hfault : (a.printer.facing t).sink.writeFault = none := ht
    have hdropped : (a.printer.facing t).dropped t.call = none := by
      rw [dropped, hfault]
      rfl
    have hlost : (a.after t).lost = a.lost := by
      simp [Account.after, hdropped]
    exact (ih hts).trans hlost

end

end Account

/-- Any records written and flushes in between, while the sink starts and
stops refusing lines and flushes as it likes.

All that was accepted is shown by a line, or held, or was dropped with
a line that was due when the sink refused it, or was cut off at the
greatest word. So what is shown and held is what was accepted if and
only if nothing was dropped or cut off. A printer that does not fold
drops nothing, and no printer does while the sink takes its lines. -/
theorem refused_lines_are_dropped (format : OutputFormat) (folding : Bool)
    (attempts : List Attempt) :
    let a := (Account.opened format folding).afterAll attempts
    ∃ shown, shownTotal? format a.printer.sink.lines = some shown ∧
      counted a.accepted = shown + a.printer.heldCount + standing a.lost + a.clipped ∧
      (counted a.accepted = shown + a.printer.heldCount ↔ standing a.lost = 0 ∧ a.clipped = 0) ∧
      (folding = false → a.lost = [] ∧ a.clipped = 0) ∧
      ((∀ t ∈ attempts, t.writeFault = none) → a.lost = []) := by
  intro a
  have hbalanced : a.Balanced format := (Account.balanced_opened format folding).afterAll attempts
  obtain ⟨n, hbalance, hn⟩ := hbalanced
  obtain ⟨shown, hshown, hheld⟩ := hbalance.total
  have hcounts : counted a.accepted
      = shown + a.printer.heldCount + standing a.lost + a.clipped := by
    rw [hn, hheld]
  refine ⟨shown, hshown, hcounts, ?_, ?_, ?_⟩
  · rw [hcounts]
    omega
  · -- Without folding nothing is ever held, and so nothing can be dropped.
    rintro rfl
    have hprompt : a.Prompt := Account.Prompt.afterAll ⟨rfl, rfl, rfl, rfl⟩ attempts
    exact ⟨hprompt.lost_eq, hprompt.clipped_eq⟩
  · intro htakes
    exact Account.lost_afterAll_of_taken htakes

/-- A record that stands for three notifications is accepted, and the
sink refuses one flush and takes the next. The three notifications are
neither shown nor held. -/
theorem refused_flush_drops_count :
    let stamp : UInt64 → String := fun _ => ""
    let r : Record := { (default : Record) with count := 3 }
    let a := (Account.opened .text true).afterAll
      [⟨⟨.write r, stamp⟩, none, none⟩, ⟨⟨.flush, stamp⟩, some "refused", none⟩,
        ⟨⟨.flush, stamp⟩, none, none⟩]
    counted a.accepted = 3 ∧ shownTotal? .text a.printer.sink.lines = some 0 ∧
      a.printer.heldCount = 0 := by
  exact ⟨rfl, rfl, rfl⟩

end RuleTrace.Printer
