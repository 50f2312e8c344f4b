import RuleTrace.Proofs.Output.Refusals
import RuleTrace.Proofs.Output.Runs
import RuleTrace.Proofs.View.Object
import RuleTrace.Proofs.View.Text

/-!
# `RuleTrace.Proofs.Output.Neighbours`: lines that follow each other differ

A printer that folds shows equal neighbours as one. Neighbours are told by
their keys, and readers of the output see lines. So it has to be said that
no two lines that follow each other are alike, where a line is what it is
apart from the time and the count (`Printer.Emission.Alike`).

Alike lines come from records with the same key (`key_eq_of_alike`). In
the JSON format the object tells the view, and so the key. In the text
format the key is in the middle of the line, after names that may hold any
text; it is told nevertheless, since nothing of that kind follows it
(`View.fiveTuple_of_textBody`).

The other half is about the printer. Between two flushes the line that is
held is written when a record with another key comes, which is then held.
So a record is the next one after a line only if its key is another one
(`Steady.isChain_emissions`).
-/

set_option autoImplicit false

namespace RuleTrace.Printer

/-! ### Lines that are alike -/

/-- A line that is written, and how times are shown then. -/
structure Emission where
  held : Held
  stamp : UInt64 → String

namespace Emission

/-- The text of the line. -/
def line (format : OutputFormat) (e : Emission) : List Char := Printer.line format e.stamp e.held

/-- The object of a line of the JSON format. -/
def object (e : Emission) : List (String × Json.Value) :=
  e.held.view.members (e.stamp e.held.time) e.held.count

/-- A reader of the line finds the object. -/
theorem readAll_line (e : Emission) :
    Json.readAll (Json.readValue 1) (e.line .json) = .ok (.object e.object) := by
  rw [object, View.members_eq_written]
  exact Report.readAll_jsonLine ⟨e.held.view, e.held.count, e.stamp e.held.time⟩

/-- Two lines are the same apart from time and count. -/
def Alike (format : OutputFormat) (e f : Emission) : Prop :=
  match format with
  | .text => e.held.view.textBody = f.held.view.textBody
  | .json => ∀ name, name ≠ "cnt" → name ≠ "timestamp" → e.object.lookup name = f.object.lookup name

end Emission

/-- The line shows a record and is held under its key. -/
def Genuine (format : OutputFormat) (h : Held) : Prop :=
  ∃ r : Record, h.view = View.ofRecord r ∧ h.key = keyOf format r

/-- Lines that are alike have the same key. -/
theorem key_eq_of_alike {format : OutputFormat} {e f : Emission} (he : Genuine format e.held)
    (hf : Genuine format f.held) (h : e.Alike format f) : e.held.key = f.held.key := by
  obtain ⟨r, hview, hkey⟩ := he
  obtain ⟨s, hview', hkey'⟩ := hf
  rw [hkey, hkey']
  cases format with
  | text =>
    have hbody : (View.ofRecord r).textBody = (View.ofRecord s).textBody := by
      rw [← hview, ← hview']
      exact h
    exact View.fiveTuple_of_textBody hbody
  | json =>
    have hsame : e.held.view = f.held.view := View.eq_of_lookup h
    have hviews : View.ofRecord r = View.ofRecord s := by
      rw [← hview, ← hview', hsame]
    exact congrArg (key .json) hviews

/-! ### What turns write -/

/-- The lines that a printer writes in turns, where the sink takes all
lines: before the call is served, the line that is due. -/
def emissions (p : Printer) : List Turn → List Emission
  | [] => []
  | t :: ts =>
    ((p.due t.call).map fun h => ⟨h, t.stamp⟩).toList ++ emissions (t.perform p).2 ts

/-- A line that is due is the one that is held. -/
theorem held_of_due {p : Printer} {c : Call} {h : Held} (hdue : p.due c = some h) :
    p.held = some h := by
  cases c with
  | write r => exact (Option.filter_eq_some_iff.mp hdue).1
  | flush => exact hdue

/-- Records that are written one after another, and then a flush. -/
def piece (writes : List (Record × (UInt64 → String))) (last : UInt64 → String) : List Turn :=
  writes.map (fun (r, stamp) => ⟨.write r, stamp⟩) ++ [⟨.flush, last⟩]

/-- The printer folds, its sink works, and the line that is held is that of
some record. -/
structure Steady (format : OutputFormat) (p : Printer) : Prop where
  format_eq : p.format = format
  folding_eq : p.folding = true
  writeFault_eq : p.sink.writeFault = none
  flushFault_eq : p.sink.flushFault = none
  genuine : ∀ h ∈ p.held, Genuine format h

/-- A printer that tells its history is steady: the line that it holds is
that of a run, which has a first record. -/
theorem Tells.steady {format : OutputFormat} {moments : List (UInt64 → String)} {c : Cut}
    {p : Printer} (h : p.Tells format moments c) : p.Steady format where
  format_eq := h.written.format_eq
  folding_eq := h.written.folding_eq
  writeFault_eq := h.written.writeFault_eq
  flushFault_eq := h.written.flushFault_eq
  genuine := by
    intro held hheld
    rw [h.held_eq] at hheld
    obtain ⟨run, -, rfl⟩ := Option.map_eq_some_iff.mp hheld
    exact ⟨run.headD default, rfl, rfl⟩

namespace Steady

variable {format : OutputFormat} {p : Printer} (hp : p.Steady format)
include hp

/-- The line that is held is written, and nothing is held then. -/
theorem emitHeld (stamp : UInt64 → String) :
    ∃ q, p.emitHeld stamp = (.ok (), q) ∧ q.Steady format ∧ q.held = none ∧
      q.sink.lines = p.sink.lines ++ (p.held.map (Printer.line format stamp)).toList := by
  obtain ⟨hformat, hfolding, hwrite, hflush, -⟩ := hp
  cases hheld : p.held with
  | none =>
    refine ⟨p, emitHeld_of_none stamp hheld, ⟨hformat, hfolding, hwrite, hflush, ?_⟩, hheld, ?_⟩
    · simp [hheld]
    · simp
  | some h =>
    rw [Printer.emitHeld, hheld]
    dsimp only
    rw [emit_of_taken (p := { p with held := none }) stamp h hwrite]
    refine ⟨_, rfl, ⟨hformat, hfolding, hwrite, hflush, ?_⟩, rfl, ?_⟩
    · simp
    · rw [hformat]
      rfl

/-- When a record is written, a line that is held under another key is
written first. Then a line is held under the key of the record. -/
theorem write (stamp : UInt64 → String) (r : Record) :
    ∃ q, (p.write stamp r).2 = q ∧ q.Steady format ∧ q.held.map Held.key = some (keyOf format r) ∧
      q.sink.lines
        = p.sink.lines ++ ((p.due (.write r)).map (Printer.line format stamp)).toList := by
  cases hfold : p.held.filter fun h => h.key = (hold p.format r).key with
  | some h =>
    -- The record is folded, so no line is due.
    obtain ⟨hheld, hsame⟩ := Option.filter_eq_some_iff.mp hfold
    have hkey : h.key = (hold p.format r).key := of_decide_eq_true hsame
    have hdue : p.due (.write r) = none := by
      simp [due, hheld, hkey]
    rw [write_of_same stamp hfold, hdue]
    refine ⟨_, rfl, ⟨hp.format_eq, hp.folding_eq, hp.writeFault_eq, hp.flushFault_eq, ?_⟩, ?_, ?_⟩
    · intro g hg
      cases hg
      exact hp.genuine h hheld
    · rw [Option.map_some, hkey, hp.format_eq]
      rfl
    · exact (List.append_nil _).symm
  | none =>
    obtain ⟨q, hq, hsteady, -, hlines⟩ := hp.emitHeld stamp
    rw [write_of_other stamp hfold hq, due_of_other hfold, begin, if_pos hsteady.folding_eq,
      hp.format_eq]
    refine ⟨_, rfl, ⟨hsteady.format_eq, hsteady.folding_eq, hsteady.writeFault_eq,
      hsteady.flushFault_eq, ?_⟩, rfl, hlines⟩
    intro g hg
    cases hg
    exact ⟨r, rfl, rfl⟩

/-- A flush writes the line that is held. -/
theorem flush (stamp : UInt64 → String) :
    ∃ q, (p.flush stamp).2 = q ∧ q.Steady format ∧
      q.sink.lines = p.sink.lines ++ (p.held.map (Printer.line format stamp)).toList := by
  obtain ⟨q, hq, hsteady, -, hlines⟩ := hp.emitHeld stamp
  refine ⟨q, ?_, hsteady, hlines⟩
  rw [Printer.flush, hq]
  dsimp only
  rw [hsteady.flushFault_eq]

/-- A turn writes the line that is due. -/
theorem perform (t : Turn) :
    (t.perform p).2.Steady format ∧
      (t.perform p).2.sink.lines
        = p.sink.lines ++ ((p.due t.call).map (Printer.line format t.stamp)).toList := by
  unfold Turn.perform
  cases t.call with
  | write r =>
    obtain ⟨q, hq, hsteady, -, hlines⟩ := hp.write t.stamp r
    dsimp only
    rw [hq]
    exact ⟨hsteady, hlines⟩
  | flush =>
    obtain ⟨q, hq, hsteady, hlines⟩ := hp.flush t.stamp
    dsimp only
    rw [hq]
    exact ⟨hsteady, hlines⟩

/-- Turn after turn, the printer writes its emissions. -/
theorem lines_afterAll (turns : List Turn) :
    (p.afterAll turns).sink.lines
      = p.sink.lines ++ (p.emissions turns).map (Emission.line format) := by
  induction turns generalizing p with
  | nil => exact (List.append_nil _).symm
  | cons t turns ih =>
    obtain ⟨hsteady, hlines⟩ := hp.perform t
    have hrest := ih hsteady
    show ((t.perform p).2.afterAll turns).sink.lines = _
    rw [hrest, hlines, emissions, List.map_append, List.append_assoc]
    congr 2
    cases p.due t.call with
    | none => rfl
    | some h => rfl

/-- Each line that is written shows some record, under its key. -/
theorem genuine_of_mem_emissions {turns : List Turn} {e : Emission} (h : e ∈ p.emissions turns) :
    Genuine format e.held := by
  induction turns generalizing p with
  | nil => cases h
  | cons t turns ih =>
    rcases List.mem_append.mp h with hdue | hrest
    · obtain ⟨g, hg, rfl⟩ := Option.map_eq_some_iff.mp (Option.mem_toList.mp hdue)
      exact hp.genuine g (held_of_due hg)
    · exact ih (hp.perform t).1 hrest

/-- In a piece no emission has the key of the one before it, and the first
one has the key of the line that was held. -/
theorem isChain_keys (writes : List (Record × (UInt64 → String))) (last : UInt64 → String) :
    ((p.emissions (piece writes last)).IsChain fun e f => e.held.key ≠ f.held.key) ∧
      ∀ h ∈ p.held, ∀ e ∈ (p.emissions (piece writes last)).head?, e.held.key = h.key := by
  induction writes generalizing p with
  | nil =>
    have hemissions : p.emissions (piece [] last)
        = (p.held.map fun h => Emission.mk h last).toList := List.append_nil _
    rw [hemissions]
    cases p.held with
    | none => exact ⟨List.isChain_nil, nofun⟩
    | some h =>
      refine ⟨List.isChain_singleton _, ?_⟩
      intro g hg e he
      cases hg
      cases he
      rfl
  | cons w writes ih =>
    obtain ⟨r, stamp⟩ := w
    obtain ⟨q, hq, hsteady, hkey, -⟩ := hp.write stamp r
    obtain ⟨g, hg, hgkey⟩ := Option.map_eq_some_iff.mp hkey
    obtain ⟨hchain, hhead⟩ := ih hsteady
    -- After this record, the next line is the one that is held under its key.
    have hnext : ∀ e ∈ (q.emissions (piece writes last)).head?, e.held.key = keyOf format r := by
      intro e he
      rw [hhead g hg e he, hgkey]
    have hemissions : p.emissions (piece ((r, stamp) :: writes) last)
        = ((p.due (.write r)).map fun h => Emission.mk h stamp).toList
          ++ q.emissions (piece writes last) := by
      rw [← hq]
      rfl
    have hformat : (hold p.format r).key = keyOf format r := by
      rw [hp.format_eq]
      rfl
    rw [hemissions]
    cases hdue : p.due (.write r) with
    | none =>
      refine ⟨hchain, ?_⟩
      intro h hheld e he
      have hsame := Option.filter_eq_none_iff.mp hdue h hheld
      have hkeys : h.key = (hold p.format r).key := by simpa using hsame
      rw [hnext e he, hkeys, hformat]
    | some h =>
      obtain ⟨hheld, hother⟩ := Option.filter_eq_some_iff.mp hdue
      have hne : h.key ≠ keyOf format r := by
        rw [← hformat]
        exact of_decide_eq_true hother
      refine ⟨List.isChain_cons.mpr ⟨?_, hchain⟩, ?_⟩
      · intro e he
        rw [hnext e he]
        exact hne
      · intro h' hheld' e he
        rw [hheld] at hheld'
        cases hheld'
        cases he
        rfl

/-- No emission of a piece is like the one before it. -/
theorem isChain_emissions (writes : List (Record × (UInt64 → String))) (last : UInt64 → String) :
    (p.emissions (piece writes last)).IsChain fun e f => ¬ e.Alike format f := by
  refine (hp.isChain_keys writes last).1.imp_of_mem_imp ?_
  intro e f he hf hkeys halike
  exact hkeys (key_eq_of_alike (hp.genuine_of_mem_emissions he) (hp.genuine_of_mem_emissions hf)
    halike)

end Steady

/-- Any use of a printer that folds and whose sink takes all lines, and then
any records written one after another, with a flush only at the end.

The lines that are written from then on are those that were due in each
turn. No two that follow each other are the same apart from time and
count: they differ in the text before the count, or in some member of the
object that is neither the count nor the time. The object is what a reader
finds in the line of the JSON format.

In the text format records with the same line have the same key, whatever
stands in their names. -/
theorem neighbours_are_collapsed (format : OutputFormat) (before : List Turn)
    (writes : List (Record × (UInt64 → String))) (last : UInt64 → String) :
    (let p := (new format true .empty).afterAll before
      let emitted := p.emissions (piece writes last)
      (p.afterAll (piece writes last)).sink.lines
        = p.sink.lines ++ emitted.map (Emission.line format) ∧
      (emitted.IsChain fun e f => ¬ e.Alike format f) ∧
      ∀ e ∈ emitted, Json.readAll (Json.readValue 1) (e.line .json) = .ok (.object e.object)) ∧
    (∀ r s : Record, (View.ofRecord r).textBody = (View.ofRecord s).textBody →
      keyOf .text r = keyOf .text s) := by
  refine ⟨?_, ?_⟩
  · intro p emitted
    have hp : p.Steady format := (tells_afterAll format before).steady
    refine ⟨hp.lines_afterAll _, hp.isChain_emissions writes last, ?_⟩
    intro e _
    exact e.readAll_line
  · intro r s hbody
    exact View.fiveTuple_of_textBody hbody

end RuleTrace.Printer
