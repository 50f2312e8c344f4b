import Mathlib.Data.List.SplitBy
import RuleTrace.Proofs.Output.Printer

/-!
# `RuleTrace.Proofs.Output.Runs`: a folding printer writes one line for each run

A printer that folds gets records one by one, and holds back at most one
line. What it has written by then can be told from the whole history at
once: cut the history at its flushes (`Printer.cut`), and split each
piece into the maximal runs of neighbours with the same key
(`Printer.runs`). Each run has one line, which shows the first record
and the sum of the counts (`Printer.heldFor`).

The invariant is `Printer.Tells`: all runs have their lines but the last
run of the piece that goes on, and the line that is held is the line of
that run. One more record either goes on with the last run
(`runs_concat_of_eq`, `heldFor_concat`) or begins a run of its own
(`runs_concat_of_ne`), and whether it does is decided by the key of the
line that is held; a flush ends the piece, so that runs never reach
across it.

The time in a line is shown as it was when the line was written, which
is some turn after that of the record. So the moments at which the lines
were written are a sublist of the moments of the turns (`ShowRuns`).

A printer that does not fold holds nothing, and each line is written in
the turn of its record (`Plain`).
-/

set_option autoImplicit false

namespace RuleTrace.Printer

/-- What a record must share with its neighbours to be folded. -/
def keyOf (format : OutputFormat) (r : Record) : List Char := key format (View.ofRecord r)

/-- The maximal runs of neighbours with the same key. -/
def runs (format : OutputFormat) (piece : List Record) : List (List Record) :=
  piece.splitBy fun r s => keyOf format r = keyOf format s

section
variable {format : OutputFormat} {piece run : List Record} {before : List (List Record)}

/-- Without records there are no runs. -/
@[simp] theorem runs_nil : runs format [] = [] := rfl

/-- In a run each record has the key of the first. -/
theorem keyOf_of_isChain {first : Record} {rest : List Record}
    (hchain : (first :: rest).IsChain fun r s => decide (keyOf format r = keyOf format s) = true) :
    ∀ s ∈ first :: rest, keyOf format s = keyOf format first := by
  induction rest generalizing first with
  | nil => simp
  | cons second rest ih =>
    obtain ⟨hkey, hrest⟩ := List.isChain_cons_cons.mp hchain
    have hkey := of_decide_eq_true hkey
    intro s hs
    rcases List.mem_cons.mp hs with rfl | hs
    · rfl
    · rw [hkey]
      exact ih hrest s hs

/-- A run has a record. -/
theorem ne_nil_of_mem_runs (h : run ∈ runs format piece) : run ≠ [] :=
  List.ne_nil_of_mem_splitBy h

/-- Any two records of a run have the same key. -/
theorem keyOf_eq_of_mem_runs (h : run ∈ runs format piece) {r s : Record} (hr : r ∈ run)
    (hs : s ∈ run) : keyOf format r = keyOf format s := by
  obtain ⟨first, rest, rfl⟩ := List.exists_cons_of_ne_nil (ne_nil_of_mem_runs h)
  have hfirst := keyOf_of_isChain (List.isChain_of_mem_splitBy h)
  rw [hfirst r hr, hfirst s hs]

/-- The last run ends with the last record. -/
theorem getLast?_of_runs (h : runs format piece = before ++ [run]) :
    ∃ last, piece.getLast? = some last ∧ run.getLast? = some last ∧
      keyOf format last = keyOf format (run.headD default) := by
  have hmem : run ∈ runs format piece := by simp [h]
  have hne := ne_nil_of_mem_runs hmem
  -- The runs, put together again, are the piece.
  have hjoin : piece = before.flatten ++ run := by
    have hflatten :=
      List.flatten_splitBy (fun r s => decide (keyOf format r = keyOf format s)) piece
    rw [← hflatten]
    show (runs format piece).flatten = _
    simp [h]
  cases run with
  | nil => exact absurd rfl hne
  | cons first rest =>
    have hlast : (first :: rest).getLast? = some ((first :: rest).getLast (by simp)) :=
      List.getLast?_eq_some_getLast (by simp)
    refine ⟨_, ?_, hlast,
      keyOf_of_isChain (List.isChain_of_mem_splitBy hmem) _ (List.getLast_mem _)⟩
    rw [hjoin, List.getLast?_append, hlast]
    rfl

/-- A record whose key is not that of the last run begins a run. -/
theorem runs_concat_of_ne {r : Record}
    (hkey : ∀ run ∈ (runs format piece).getLast?,
      keyOf format (run.headD default) ≠ keyOf format r) :
    runs format (piece ++ [r]) = runs format piece ++ [[r]] := by
  refine List.splitBy_append_cons [] ?_
  intro last hlast
  cases hruns : (runs format piece).getLast? with
  | none =>
    -- Without a run there is no record before `r`.
    have hnil : piece = [] := List.splitBy_eq_nil.mp (List.getLast?_eq_none_iff.mp hruns)
    rw [hnil] at hlast
    cases hlast
  | some run =>
    obtain ⟨before, hbefore⟩ := List.getLast?_eq_some_iff.mp hruns
    obtain ⟨other, hother, -, hotherKey⟩ := getLast?_of_runs hbefore
    have hne := hkey run hruns
    rw [hother] at hlast
    cases hlast
    exact decide_eq_false (hotherKey ▸ hne)

/-- A record with the same key goes on with the last run. -/
theorem runs_concat_of_eq (h : runs format piece = before ++ [run]) {r : Record}
    (hkey : keyOf format (run.headD default) = keyOf format r) :
    runs format (piece ++ [r]) = before ++ [run ++ [r]] := by
  obtain ⟨last, -, hlast, hlastKey⟩ := getLast?_of_runs h
  obtain ⟨hjoin, hnil, hchains, hbounds⟩ := List.splitBy_eq_iff.mp h
  refine List.splitBy_eq_iff.mpr ⟨?_, ?_, ?_, ?_⟩
  · rw [hjoin]
    simp
  · simpa using fun hmem => hnil (List.mem_append_left _ hmem)
  · intro m hm
    rcases List.mem_append.mp hm with hm | hm
    · exact hchains m (List.mem_append_left _ hm)
    · rw [List.mem_singleton] at hm
      subst hm
      refine List.isChain_append.mpr ⟨hchains run (by simp), List.isChain_singleton r, ?_⟩
      intro x hx y hy
      rw [hlast] at hx
      cases hx
      cases hy
      exact decide_eq_true (hlastKey.trans hkey)
  · -- The runs before this one are told apart from its first record, which stays.
    obtain ⟨hbefore, -, hlink⟩ := List.isChain_append.mp hbounds
    refine List.isChain_append.mpr ⟨hbefore, List.isChain_singleton _, ?_⟩
    intro x hx y hy
    cases hy
    obtain ⟨hx', hrun, hne⟩ := hlink x hx run (by simp)
    exact ⟨hx', by simp, by rwa [List.head_append_of_ne_nil hrun]⟩

end

/-! ### The line of a run -/

/-- The count that is shown for a run: the sum of the counts, at most the
greatest word. -/
def runCount (run : List Record) : UInt64 := UInt64.ofNat (min (counted run) (UInt64.size - 1))

/-- What is shown for a run: its first record, with the count of the
run. -/
def heldFor (format : OutputFormat) (run : List Record) : Held :=
  { hold format (run.headD default) with count := runCount run }

/-- The count of a run as a number. -/
theorem toNat_runCount (run : List Record) :
    (runCount run).toNat = min (counted run) (UInt64.size - 1) := by
  unfold runCount
  rw [UInt64.toNat_ofNat_of_lt']
  show min (counted run) (UInt64.size - 1) < UInt64.size
  have hsize : 0 < UInt64.size := by decide
  omega

/-- A run of one record is shown as the record. -/
@[simp] theorem heldFor_singleton (format : OutputFormat) (r : Record) :
    heldFor format [r] = hold format r := by
  have hcount : runCount [r] = r.count := by
    have hlt := r.count.toNat_lt
    refine UInt64.toNat_inj.mp ?_
    rw [toNat_runCount]
    simp [counted, UInt64.size]
    omega
  unfold heldFor
  rw [hcount]
  rfl

/-- One more record adds its count to the line of the run. -/
theorem heldFor_concat (format : OutputFormat) {run : List Record} (hrun : run ≠ []) (r : Record) :
    heldFor format (run ++ [r])
      = { heldFor format run with
          count := addSaturating (heldFor format run).count r.count } := by
  have hcount : runCount (run ++ [r]) = addSaturating (runCount run) r.count := by
    refine UInt64.toNat_inj.mp ?_
    rw [toNat_addSaturating, toNat_runCount, toNat_runCount, counted_append]
    simp [counted]
    omega
  have hfirst : (run ++ [r]).headD default = run.headD default := by
    cases run with
    | nil => exact absurd rfl hrun
    | cons first rest => rfl
  unfold heldFor
  rw [hcount, hfirst]

/-! ### A history, cut at its flushes -/

/-- The records of a history: the pieces that a flush has ended, and the
piece that goes on. -/
structure Cut where
  ended : List (List Record)
  current : List Record

/-- The history with one more call. -/
def Cut.after (c : Cut) : Call → Cut
  | .write r => { c with current := c.current ++ [r] }
  | .flush => ⟨c.ended ++ [c.current], []⟩

/-- The history of calls. -/
def cut (calls : List Call) : Cut := calls.foldl Cut.after ⟨[], []⟩

/-- The runs of all pieces. -/
def Cut.all (format : OutputFormat) (c : Cut) : List (List Record) :=
  c.ended.flatMap (runs format) ++ runs format c.current

/-- The runs of all pieces but the last run of the piece that goes on,
which may still grow. -/
def Cut.finished (format : OutputFormat) (c : Cut) : List (List Record) :=
  c.ended.flatMap (runs format) ++ (runs format c.current).dropLast

/-- After a flush no run goes on, so all of them are finished. -/
theorem Cut.finished_flush (format : OutputFormat) (c : Cut) :
    (c.after .flush).finished format = c.all format := by
  simp [Cut.after, Cut.finished, Cut.all]

/-- Each run is a run of some piece. -/
theorem Cut.exists_piece {format : OutputFormat} {c : Cut} {run : List Record}
    (h : run ∈ c.all format) : ∃ piece, run ∈ runs format piece := by
  rcases List.mem_append.mp h with hended | hcurrent
  · obtain ⟨piece, -, hrun⟩ := List.mem_flatMap.mp hended
    exact ⟨piece, hrun⟩
  · exact ⟨c.current, hcurrent⟩

/-- The lines show the runs, one line for each run, in order. Times are
shown as they were at some of the moments, in order. -/
def ShowRuns (format : OutputFormat) (moments : List (UInt64 → String)) (rs : List (List Record))
    (lines : List (List Char)) : Prop :=
  ∃ stamps, stamps.Sublist moments ∧ stamps.length = rs.length ∧
    lines = List.zipWith (fun stamp run => line format stamp (heldFor format run)) stamps rs

namespace ShowRuns

variable {format : OutputFormat} {moments : List (UInt64 → String)} {rs : List (List Record)}
  {lines : List (List Char)} (h : ShowRuns format moments rs lines) (stamp : UInt64 → String)
include h

/-- A moment may pass without a line. -/
theorem pass : ShowRuns format (moments ++ [stamp]) rs lines := by
  obtain ⟨stamps, hsub, hlength, hlines⟩ := h
  exact ⟨stamps, hsub.trans (List.sublist_append_left ..), hlength, hlines⟩

/-- A moment may bring the line of one more run. -/
theorem concat (run : List Record) :
    ShowRuns format (moments ++ [stamp]) (rs ++ [run])
      (lines ++ [line format stamp (heldFor format run)]) := by
  obtain ⟨stamps, hsub, hlength, hlines⟩ := h
  refine ⟨stamps ++ [stamp], hsub.append (List.Sublist.refl _), by simp [hlength], ?_⟩
  rw [List.zipWith_append hlength, hlines]
  rfl

end ShowRuns

/-- The printer folds, its sink works, and its lines show runs. -/
structure Written (format : OutputFormat) (moments : List (UInt64 → String))
    (rs : List (List Record)) (p : Printer) : Prop where
  format_eq : p.format = format
  folding_eq : p.folding = true
  writeFault_eq : p.sink.writeFault = none
  flushFault_eq : p.sink.flushFault = none
  lines : ShowRuns format moments rs p.sink.lines
  count_eq : p.count = p.sink.lines.length

/-- The printer after a history: the finished runs are written, and the
run that may still grow is held. -/
structure Tells (format : OutputFormat) (moments : List (UInt64 → String)) (c : Cut)
    (p : Printer) : Prop where
  written : p.Written format moments (c.finished format)
  held_eq : p.held = (runs format c.current).getLast?.map (heldFor format)

/-- A new printer tells the empty history. -/
theorem tells_new (format : OutputFormat) :
    (new format true .empty).Tells format [] (cut []) where
  written := ⟨rfl, rfl, rfl, rfl, ⟨[], List.Sublist.refl _, rfl, rfl⟩, rfl⟩
  held_eq := rfl

section
variable {format : OutputFormat} {moments : List (UInt64 → String)} {c : Cut} {p : Printer}
  (stamp : UInt64 → String)

/-- When the line that is held is written, all runs are. -/
theorem Tells.emitHeld (h : p.Tells format moments c) :
    ∃ q, p.emitHeld stamp = (.ok (), q) ∧ q.held = none ∧
      q.Written format (moments ++ [stamp]) (c.all format) := by
  obtain ⟨⟨hformat, hfolding, hwrite, hflush, hlines, hcount⟩, hheld⟩ := h
  unfold Printer.emitHeld
  cases hlast : (runs format c.current).getLast? with
  | none =>
    -- The piece that goes on has no run, so nothing is held.
    have hnil : runs format c.current = [] := List.getLast?_eq_none_iff.mp hlast
    have hall : c.all format = c.finished format := by
      simp [Cut.all, Cut.finished, hnil]
    rw [hlast] at hheld
    refine ⟨p, by rw [hheld]; rfl, hheld, hformat, hfolding, hwrite, hflush, ?_, hcount⟩
    rw [hall]
    exact hlines.pass stamp
  | some run =>
    obtain ⟨before, hbefore⟩ := List.getLast?_eq_some_iff.mp hlast
    have hall : c.all format = c.finished format ++ [run] := by
      simp [Cut.all, Cut.finished, hbefore]
    rw [hlast] at hheld
    rw [hheld, Option.map_some]
    dsimp only
    rw [emit_of_taken (p := { p with held := none }) stamp _ hwrite]
    refine ⟨_, rfl, rfl, hformat, hfolding, hwrite, hflush, ?_, ?_⟩
    · rw [hall, ← hformat]
      rw [← hformat] at hlines
      exact hlines.concat stamp run
    · simp [hcount]

/-- A record is folded into the run that is held, or that run is written
and the record begins one. -/
theorem Tells.write (h : p.Tells format moments c) (r : Record) :
    ∃ q, p.write stamp r = (.ok (), q) ∧
      q.Tells format (moments ++ [stamp]) (c.after (.write r)) := by
  obtain ⟨hwritten, hheld⟩ := h
  have hformat := hwritten.format_eq
  cases hfold : p.held.filter fun h => h.key = (hold p.format r).key with
  | some held =>
    obtain ⟨hsome, hkey⟩ := Option.filter_eq_some_iff.mp hfold
    rw [hheld] at hsome
    obtain ⟨run, hlast, rfl⟩ := Option.map_eq_some_iff.mp hsome
    obtain ⟨before, hbefore⟩ := List.getLast?_eq_some_iff.mp hlast
    have hrun : run ≠ [] := ne_nil_of_mem_runs (List.mem_of_getLast? hlast)
    -- The key of the line that is held is that of the last run, which goes on.
    have hgrown : runs format (c.current ++ [r]) = before ++ [run ++ [r]] := by
      refine runs_concat_of_eq hbefore ?_
      rw [hformat] at hkey
      exact of_decide_eq_true hkey
    rw [write_of_same stamp hfold]
    refine ⟨_, rfl, ⟨hformat, hwritten.folding_eq, hwritten.writeFault_eq,
      hwritten.flushFault_eq, ?_, hwritten.count_eq⟩, ?_⟩
    · have hsame : (c.after (.write r)).finished format = c.finished format := by
        simp [Cut.after, Cut.finished, hgrown, hbefore]
      rw [hsame]
      exact hwritten.lines.pass stamp
    · simp [Cut.after, hgrown, heldFor_concat format hrun]
  | none =>
    obtain ⟨q, hq, hnone, hall⟩ := Tells.emitHeld stamp ⟨hwritten, hheld⟩
    -- No run is held, or one with another key, so the record begins a run.
    have hnew : runs format (c.current ++ [r]) = runs format c.current ++ [[r]] := by
      refine runs_concat_of_ne ?_
      intro run hrun hkey
      have hfilter := Option.filter_eq_none_iff.mp hfold (heldFor format run)
        (by rw [hheld, hrun]; rfl)
      rw [hformat] at hfilter
      exact hfilter (decide_eq_true hkey)
    have hsame : (c.after (.write r)).finished format = c.all format := by
      simp [Cut.after, Cut.finished, Cut.all, hnew]
    rw [write_of_other stamp hfold hq]
    unfold begin
    rw [if_pos hall.folding_eq]
    refine ⟨_, rfl, ⟨hall.format_eq, hall.folding_eq, hall.writeFault_eq, hall.flushFault_eq, ?_,
      hall.count_eq⟩, ?_⟩
    · rw [hsame]
      exact hall.lines
    · simp [Cut.after, hnew, hformat]

/-- A flush writes what is held and ends the piece. -/
theorem Tells.flush (h : p.Tells format moments c) :
    ∃ q, p.flush stamp = (.ok (), q) ∧ q.Tells format (moments ++ [stamp]) (c.after .flush) := by
  obtain ⟨q, hq, hnone, hall⟩ := h.emitHeld stamp
  unfold Printer.flush
  rw [hq]
  dsimp only
  rw [hall.flushFault_eq]
  refine ⟨q, rfl, ?_, hnone⟩
  rw [Cut.finished_flush]
  exact hall

/-- After a flush all runs have their lines. -/
theorem Tells.lines_flush (h : p.Tells format moments c) :
    ShowRuns format (moments ++ [stamp]) (c.all format) (p.flush stamp).2.sink.lines := by
  obtain ⟨q, hq, hflushed⟩ := h.flush stamp
  have hlines := hflushed.written.lines
  rw [Cut.finished_flush] at hlines
  rw [hq]
  exact hlines

/-- One turn, whether a record is written or a flush made. -/
theorem Tells.perform (h : p.Tells format moments c) (t : Turn) :
    (t.perform p).2.Tells format (moments ++ [t.stamp]) (c.after t.call) := by
  unfold Turn.perform
  cases t.call with
  | write r =>
    obtain ⟨q, hq, htells⟩ := h.write t.stamp r
    simpa only [hq] using htells
  | flush =>
    obtain ⟨q, hq, htells⟩ := h.flush t.stamp
    simpa only [hq] using htells

/-- Turn after turn the printer tells the history so far. -/
theorem Tells.afterAll (h : p.Tells format moments c) (turns : List Turn) :
    (p.afterAll turns).Tells format (moments ++ turns.map Turn.stamp)
      ((turns.map Turn.call).foldl Cut.after c) := by
  induction turns generalizing p moments c with
  | nil => simpa [Printer.afterAll] using h
  | cons t turns ih => simpa [Printer.afterAll] using ih (h.perform t)

/-- A printer that folds tells its history, from the start. -/
theorem tells_afterAll (format : OutputFormat) (turns : List Turn) :
    ((new format true .empty).afterAll turns).Tells format (turns.map Turn.stamp)
      (cut (turns.map Turn.call)) := by
  have hrun := (tells_new format).afterAll turns
  rwa [List.nil_append] at hrun

/-- A printer that is given up writes the run that it holds, if it holds
one. -/
theorem Tells.close (h : p.Tells format moments c) :
    ShowRuns format (moments ++ [stamp]) (c.all format) (p.close stamp).lines := by
  obtain ⟨q, hq, -, hwritten⟩ := h.emitHeld stamp
  have hflush : (p.flush stamp).2 = q := by
    rw [Printer.flush, hq]
    dsimp only
    rw [hwritten.flushFault_eq]
  unfold Printer.close
  split
  · rw [hflush]
    exact hwritten.lines
  · -- Nothing is held, so there is nothing to write.
    rename_i hnone
    have hheld : p.held = none := by simpa using hnone
    rw [emitHeld_of_none stamp hheld] at hq
    cases hq
    exact hwritten.lines

end

/-! ### Without folding -/

/-- The line of a turn, if it brings a record. -/
def Turn.ownLine (format : OutputFormat) (t : Turn) : Option (List Char) :=
  match t.call with
  | .write r => some (line format t.stamp (hold format r))
  | .flush => none

/-- The printer does not fold, its sink works, and it has written the
lines. -/
structure Plain (format : OutputFormat) (lines : List (List Char)) (p : Printer) : Prop where
  format_eq : p.format = format
  folding_eq : p.folding = false
  writeFault_eq : p.sink.writeFault = none
  flushFault_eq : p.sink.flushFault = none
  held_eq : p.held = none
  lines_eq : p.sink.lines = lines
  count_eq : p.count = lines.length

/-- A new printer that does not fold has written nothing. -/
theorem plain_new (format : OutputFormat) : (new format false .empty).Plain format [] :=
  ⟨rfl, rfl, rfl, rfl, rfl, rfl, rfl⟩

namespace Plain

variable {format : OutputFormat} {lines : List (List Char)} {p : Printer}
  (h : p.Plain format lines)
include h

/-- A record is written at once. -/
theorem write (stamp : UInt64 → String) (r : Record) :
    (p.write stamp r).2.Plain format (lines ++ [line format stamp (hold format r)]) := by
  obtain ⟨rfl, hfolding, hwrite, hflush, hheld, rfl, hcount⟩ := h
  rw [write_of_not_folding stamp hfolding hheld r, emit_of_taken stamp _ hwrite]
  exact ⟨rfl, hfolding, hwrite, hflush, hheld, rfl, by simp [hcount]⟩

/-- A flush finds nothing to write and leaves the printer as it is. -/
theorem flush (stamp : UInt64 → String) : (p.flush stamp).2 = p := by
  rw [Printer.flush, emitHeld_of_none stamp h.held_eq]
  dsimp only
  rw [h.flushFault_eq]

/-- One turn writes its own line, if it brings a record. -/
theorem perform (t : Turn) :
    (t.perform p).2.Plain format (lines ++ (t.ownLine format).toList) := by
  unfold Turn.perform Turn.ownLine
  cases t.call with
  | write r => exact h.write t.stamp r
  | flush =>
    dsimp only
    rw [h.flush, Option.toList_none, List.append_nil]
    exact h

/-- Turn after turn the printer writes the lines of the records. -/
theorem afterAll (turns : List Turn) :
    (p.afterAll turns).Plain format (lines ++ turns.filterMap (Turn.ownLine format)) := by
  induction turns generalizing p lines with
  | nil => simpa [Printer.afterAll] using h
  | cons t turns ih =>
    have hrest := ih (h.perform t)
    cases howner : t.ownLine format with
    | none => simpa [Printer.afterAll, List.filterMap_cons, howner] using hrest
    | some own => simpa [Printer.afterAll, List.filterMap_cons, howner] using hrest

end Plain

/-- A printer that does not fold has written the line of each turn, from
the start. -/
theorem plain_afterAll (format : OutputFormat) (turns : List Turn) :
    ((new format false .empty).afterAll turns).Plain format
      (turns.filterMap (Turn.ownLine format)) := by
  have hrun := (plain_new format).afterAll turns
  rwa [List.nil_append] at hrun

/-- Any records written and flushes in between, in any order, with a sink
that never refuses, and a moment for a last flush, or at which the printer
is given up.

A printer that folds has written one line for each run that is finished:
the records are cut at the flushes, each piece is split into its maximal
runs of neighbours with the same key, and only the last run of the piece
that goes on is not finished. The line of a run shows its first record
with the sum of the counts, at most the greatest word. The count of lines
is the number of lines. After the last flush, and in the sink of the
printer that was given up, all runs have their lines.

A printer that does not fold writes the line of each record when it gets
the record, and nothing at other times. -/
theorem lines_show_runs (format : OutputFormat) (turns : List Turn) (last : UInt64 → String) :
    (let p := (new format true .empty).afterAll turns
      let c := cut (turns.map Turn.call)
      let moments := turns.map Turn.stamp
      ShowRuns format moments (c.finished format) p.sink.lines ∧
      p.count = p.sink.lines.length ∧
      ShowRuns format (moments ++ [last]) (c.all format) (p.flush last).2.sink.lines ∧
      (p.flush last).2.count = (p.flush last).2.sink.lines.length ∧
      ShowRuns format (moments ++ [last]) (c.all format) (p.close last).lines) ∧
    (let p := (new format false .empty).afterAll turns
      let lines := turns.filterMap (Turn.ownLine format)
      p.sink.lines = lines ∧ p.count = lines.length ∧
      (p.flush last).2.sink.lines = lines ∧ (p.flush last).2.count = lines.length ∧
      (p.close last).lines = lines) := by
  constructor
  · intro p c moments
    have htells : p.Tells format moments c := tells_afterAll format turns
    obtain ⟨q, hq, hflushed⟩ := htells.flush last
    refine ⟨htells.written.lines, htells.written.count_eq, htells.lines_flush last, ?_,
      htells.close last⟩
    rw [hq]
    exact hflushed.written.count_eq
  · intro p lines
    have hplain : p.Plain format lines := plain_afterAll format turns
    have hclose : p.close last = p.sink := by
      rw [close, hplain.held_eq]
      rfl
    rw [hplain.flush, hclose]
    exact ⟨hplain.lines_eq, hplain.count_eq, hplain.lines_eq, hplain.count_eq, hplain.lines_eq⟩

end RuleTrace.Printer
