import RuleTrace.Notification.Json
import RuleTrace.Text.Blank
import RuleTrace.Text.Utf8

/-!
# `RuleTrace.Replay`: recorded notifications, line by line

A recording is a file with one event on each line. Blank lines and
lines that start with `#` are skipped. A line that holds no event is
reported with its number and skipped too. A line that is no text ends
the recording.

`Replay.items` tells, in order, what a recording delivers and reports.
The file is read in blocks, and `Replay.entries` tells too how many of
them it takes to find each item.

`Replay.play` is a recording with its audience: the handlers that are
called for every event, and the listeners that are told of trouble.
-/

set_option autoImplicit false

namespace RuleTrace.Replay

/-- What a line of a recording gives. -/
inductive Item where
  /-- an event to deliver -/
  | event (e : Event)
  /-- a line, by number, that holds no event -/
  | malformed (line : Nat) (cause : Json.Fault)
  /-- a line that is no text, after which nothing is read -/
  | unreadable
  deriving DecidableEq, Repr

/-- What goes wrong in a recording. -/
inductive Trouble where
  /-- a line, by number, that holds no event -/
  | malformed (line : Nat) (cause : Json.Fault)
  /-- a line that is no text -/
  | unreadable
  deriving DecidableEq, Repr

/-- The wording of what goes wrong. -/
def Trouble.message : Trouble → String
  | malformed line cause =>
    "line " ++ String.ofList (Text.decimal line) ++ ": " ++ cause.message
  | unreadable => "reading replay input: stream did not contain valid UTF-8"

/-- What is reported of an item. -/
def Item.trouble? : Item → Option Trouble
  | event _ => none
  | malformed line cause => some (.malformed line cause)
  | unreadable => some .unreadable

/-- The lines of a file: what stands between line feeds, without the
carriage return that may end it. -/
def physicalLines : List UInt8 → List (List UInt8)
  | [] => []
  | b :: bs =>
    if b = 10 then [] :: physicalLines bs
    else
      match physicalLines bs with
      | [] => [[b]]
      | line :: lines => (b :: line) :: lines

/-- A line without the carriage return that may end it. -/
def dropReturn (line : List UInt8) : List UInt8 :=
  if line.getLast? = some 13 then line.dropLast else line

/-- Whether a line, without blanks around it, says nothing. -/
def isSilent (s : List Char) : Bool := s.isEmpty || s.head? = some '#'

/-- A line of a recording. -/
structure Line where
  number : Nat
  octets : List UInt8
  /-- the blocks of the file that must be read to find its end -/
  blocks : Nat
  deriving DecidableEq, Repr

/-- The greatest number of octets that are read at once. -/
def blockSize : Nat := 8192

/-- The number of blocks that hold so many octets. -/
def blocksFor (octets : Nat) : Nat := (octets + blockSize - 1) / blockSize

/-- Lines with their places, in a file of `size` octets; the first one
starts at an octet. A line without a line feed is known to end only
when there are no more blocks. -/
def linesFrom (size number start : Nat) : List (List UInt8) → List Line
  | [] => []
  | octets :: rest =>
    let stop := start + octets.length + 1
    let blocks := if stop ≤ size then blocksFor stop else blocksFor size + 1
    ⟨number, octets, blocks⟩ :: linesFrom size (number + 1) stop rest

/-- The lines of a file, with their places. -/
def lines (file : List UInt8) : List Line := linesFrom file.length 1 0 (physicalLines file)

/-- What a line gives; `none` for a silent line. -/
def readLine (l : Line) : Option Item :=
  match Text.Utf8.decode? (dropReturn l.octets) with
  | none => some .unreadable
  | some cs =>
    let s := Text.trim cs
    if isSilent s then none
    else
      match Event.parse s with
      | .ok e => some (.event e)
      | .error cause => some (.malformed l.number cause)

/-- An item and the blocks that must be read before it is given. -/
structure Entry where
  item : Item
  blocks : Nat
  deriving DecidableEq, Repr

/-- What lines give. -/
def entriesOf : List Line → List Entry
  | [] => []
  | l :: ls =>
    match readLine l with
    | none => entriesOf ls
    | some .unreadable => [⟨.unreadable, l.blocks⟩]
    | some item => ⟨item, l.blocks⟩ :: entriesOf ls

/-- What a file gives, with the blocks that each item needs. -/
def entries (file : List UInt8) : List Entry := entriesOf (lines file)

/-- What a file gives. -/
def items (file : List UInt8) : List Item := (entries file).map Entry.item

/-- The items up to the `n`-th event. -/
def upToEvent : Nat → List Item → List Item
  | 0, _ => []
  | _, [] => []
  | n + 1, .event e :: rest => .event e :: upToEvent n rest
  | n + 1, item :: rest => item :: upToEvent (n + 1) rest

/-- The items up to the event at which so many listeners, each of them
told of every event, were told `n` times. -/
def upToCall (listeners n : Nat) (items : List Item) : List Item :=
  if listeners = 0 ∧ n ≠ 0 then items else upToEvent ((n + listeners - 1) / listeners) items

/-- The core that an event is delivered on: the one that it names, or
else the processor on which the recording is read, counted among the
cores. -/
def coreOf (e : Event) (processor cores : Nat) : Nat := e.core.getD (processor % max cores 1)

/-- A call of one of the handlers of events. -/
structure Call where
  handler : Nat
  core : Nat
  notification : Notification
  deriving DecidableEq, Repr

/-- What an item is to the handlers: each of them is called for an
event, one after another. -/
def Item.calls (handlers cores processor : Nat) : Item → List Call
  | event e => (List.range handlers).map fun i => ⟨i, coreOf e processor cores, e.notification⟩
  | _ => []

/-- What a listener is told of trouble. -/
inductive Notice where
  /-- what goes wrong -/
  | typed (t : Trouble)
  /-- no more than the wording of it -/
  | worded (message : String)
  deriving DecidableEq, Repr

/-- A listener, by number, that is told of trouble. -/
structure Report where
  listener : Nat
  notice : Notice
  deriving DecidableEq, Repr

/-- What trouble is to the listeners: one alone is told what goes wrong,
several are told the wording each. -/
def Trouble.reports (listeners : Nat) (t : Trouble) : List Report :=
  if listeners = 1 then [⟨0, .typed t⟩]
  else (List.range listeners).map fun i => ⟨i, .worded t.message⟩

/-- How a recording went. -/
structure Summary where
  delivered : Nat
  malformed : Nat
  deriving DecidableEq, Repr, Inhabited

/-- The summary with one more item. -/
def Summary.count (s : Summary) : Item → Summary
  | .event _ => { s with delivered := s.delivered + 1 }
  | .malformed _ _ => { s with malformed := s.malformed + 1 }
  | .unreadable => s

/-- The summary of items. -/
def summary (items : List Item) : Summary := items.foldl Summary.count default

/-- The calls of the handlers, where `processor` tells on which processor
each item is read. -/
def calls (handlers cores : Nat) (processor : Nat → Nat) (items : List Item) : List Call :=
  items.zipIdx.flatMap fun (item, n) => item.calls handlers cores (processor n)

/-- What is reported to the listeners. -/
def reports (listeners : Nat) (items : List Item) : List Report :=
  (items.filterMap Item.trouble?).flatMap (Trouble.reports listeners)

/-- The failure to open a recording. -/
structure OpenError where
  path : String
  deriving DecidableEq, Repr

/-- The wording of the failure. -/
def OpenError.message (e : OpenError) : String := "opening replay file " ++ e.path

/-- Who takes part in playing a recording. -/
structure Audience where
  /-- how many handlers there are of events -/
  handlers : Nat
  /-- how many listeners there are to trouble -/
  listeners : Nat
  /-- how many cores there are -/
  cores : Nat
  /-- the processor on which an item, by number, is read -/
  processor : Nat → Nat
  /-- after how many calls playing is called off, if at all -/
  calledOff : Option Nat

/-- What comes of playing a recording. -/
structure Played where
  summary : Summary
  calls : List Call
  reports : List Report
  deriving DecidableEq, Repr

/-- Plays a recording from a file, of which the contents are given if it
can be opened. -/
def play (path : String) (file? : Option (List UInt8)) (w : Audience) : Except OpenError Played :=
  match file? with
  | none => .error ⟨path⟩
  | some file =>
    let all := items file
    let heard := (w.calledOff.map fun n => upToCall w.handlers n all).getD all
    .ok
      { summary := summary heard
        calls := calls w.handlers w.cores w.processor heard
        reports := reports w.listeners heard }

end RuleTrace.Replay
