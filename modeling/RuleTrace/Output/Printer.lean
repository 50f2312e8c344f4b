import RuleTrace.Aggregation.Store
import RuleTrace.Config.Basic
import RuleTrace.View.Basic

/-!
# `RuleTrace.Output.Printer`: writing records, equal neighbours as one

A printer writes each record as one line. When it folds, it holds the
last line back as long as the records that follow have the same key,
and adds up their counts; the line shows the first of them. The key is
the flow in the text format, and all but count and time in the JSON
format. A flush writes the line that is held.

The sink may refuse to write. A held line is given up before the
attempt to write it, so it is lost when the sink refuses, and so is
the record that came with it.
-/

set_option autoImplicit false

namespace RuleTrace

/-- Where lines go. -/
structure Sink where
  /-- the lines written so far -/
  lines : List (List Char)
  /-- why it refuses to write, if it does -/
  writeFault : Option String
  /-- why it refuses to flush, if it does -/
  flushFault : Option String
  deriving DecidableEq, Repr, Inhabited

/-- Why a line was not written. -/
inductive PrintError where
  | output (cause : String)
  | encoding (cause : String)
  deriving DecidableEq, Repr

/-- The wording of the error. -/
def PrintError.message : PrintError → String
  | output cause => "writing trace output: " ++ cause
  | encoding cause => "encoding trace as json: " ++ cause

namespace Sink

/-- A sink that works and holds nothing. -/
def empty : Sink := ⟨[], none, none⟩

/-- The sink with one more line, or why not. -/
def write (s : Sink) (line : List Char) : Except String Sink :=
  match s.writeFault with
  | some cause => .error cause
  | none => .ok { s with lines := s.lines ++ [line] }

/-- All that was written: each line ends with a line feed. -/
def text (s : Sink) : List Char := s.lines.flatMap (· ++ ['\n'])

end Sink

/-- A line that is held back. -/
structure Held where
  key : List Char
  view : View
  time : UInt64
  count : UInt64
  deriving DecidableEq, Repr

/-- A printer with its sink. -/
structure Printer where
  format : OutputFormat
  /-- whether equal neighbours are folded -/
  folding : Bool
  held : Option Held
  /-- lines written -/
  count : Nat
  sink : Sink
  deriving DecidableEq, Repr

namespace Printer

/-- A printer that has written nothing. -/
def new (format : OutputFormat) (folding : Bool) (sink : Sink) : Printer :=
  ⟨format, folding, none, 0, sink⟩

/-- What records must share to be folded. -/
def key (format : OutputFormat) (v : View) : List Char :=
  match format with
  | .text => v.fiveTuple
  | .json => v.jsonLine "" 0

/-- The line for a record that is held alone. -/
def hold (format : OutputFormat) (r : Record) : Held :=
  let v := View.ofRecord r
  ⟨key format v, v, r.time, r.count⟩

/-- The text of a line. -/
def line (format : OutputFormat) (stamp : UInt64 → String) (h : Held) : List Char :=
  match format with
  | .text => h.view.textLine (stamp h.time) h.count
  | .json => h.view.jsonLine (stamp h.time) h.count

/-- What it means that the sink refused a line. -/
def refused (format : OutputFormat) (cause : String) : PrintError :=
  match format with
  | .text => .output cause
  | .json => .encoding cause

/-- Writes one line. -/
def emit (p : Printer) (stamp : UInt64 → String) (h : Held) : Except PrintError Unit × Printer :=
  match p.sink.write (line p.format stamp h) with
  | .ok sink => (.ok (), { p with sink := sink, count := p.count + 1 })
  | .error cause => (.error (refused p.format cause), p)

/-- Writes the line that is held, if there is one; afterwards none is
held. -/
def emitHeld (p : Printer) (stamp : UInt64 → String) : Except PrintError Unit × Printer :=
  match p.held with
  | none => (.ok (), p)
  | some h => { p with held := none }.emit stamp h

/-- Begins a new line, after the one before it was written. -/
def begin (p : Printer) (stamp : UInt64 → String) (h : Held) : Except PrintError Unit × Printer :=
  if p.folding then (.ok (), { p with held := some h }) else p.emit stamp h

/-- Prints a record, or folds it into the line that is held. -/
def write (p : Printer) (stamp : UInt64 → String) (r : Record) : Except PrintError Unit × Printer :=
  let next := hold p.format r
  match p.held.filter fun h => h.key = next.key with
  | some h => (.ok (), { p with held := some { h with count := addSaturating h.count r.count } })
  | none =>
    match p.emitHeld stamp with
    | (.ok (), p) => p.begin stamp next
    | (.error e, p) => (.error e, p)

/-- Writes the line that is held and flushes the sink. -/
def flush (p : Printer) (stamp : UInt64 → String) : Except PrintError Unit × Printer :=
  match p.emitHeld stamp with
  | (.error e, p) => (.error e, p)
  | (.ok (), p) =>
    match p.sink.flushFault with
    | some cause => (.error (.output cause), p)
    | none => (.ok (), p)

/-- Gives the printer up. A line that is held is written if the sink
takes it. -/
def close (p : Printer) (stamp : UInt64 → String) : Sink :=
  if p.held.isSome then (p.flush stamp).2.sink else p.sink

end Printer

end RuleTrace
