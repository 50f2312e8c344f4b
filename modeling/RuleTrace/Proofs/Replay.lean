import Mathlib.Data.List.Basic
import Mathlib.Data.List.Nodup
import Mathlib.Data.List.TakeWhile
import RuleTrace.Replay

/-!
# `RuleTrace.Proofs.Replay`: what a recording delivers and reports

A recording is judged line by line. What a line says (`saying`) depends
on no other line: it is blank or a comment, or it holds an event, or it
is text that holds none, or it is no text. Each line should count for
itself, so that a line that is wrong costs no more than itself. The
items of a recording are then the events of all lines in order and the
numbers of all lines that are wrong (`Complete`).

Reading stops at a line that is no text, though. It is reported without
its number, it is not counted, and what follows it is not looked at
(`items_of_lines`, by induction on the lines). So the items are complete
for the lines before that one, and they are complete for the whole
recording if and only if all lines are text (`complete_iff_all_text`).

Lines are told from the pieces between line feeds, by a function of the
standard library (`physicalLines_eq`).

Handlers and listeners hear of the same items. However many there are,
each handler gets all events in order (`calls_of_handler`), and each
listener is told of all trouble (`reports_of_listener`).
-/

set_option autoImplicit false

namespace RuleTrace.Replay

/-! ### The lines of a file -/

/-- What stands between the line feeds of a file. A line feed at the end
of the file begins no further line. -/
def linesOf (file : List UInt8) : List (List UInt8) :=
  let pieces := file.splitOn 10
  if pieces.getLast? = some [] then pieces.dropLast else pieces

/-- The lines are what stands between the line feeds. -/
theorem physicalLines_eq (file : List UInt8) : physicalLines file = linesOf file := by
  induction file with
  | nil => rfl
  | cons b bs ih =>
    obtain ⟨piece, pieces, hpieces⟩ := List.exists_cons_of_ne_nil (List.splitOn_ne_nil 10 bs)
    rw [physicalLines, ih, linesOf, linesOf, hpieces]
    by_cases hb : b = 10
    · -- A line feed ends an empty piece, and the last piece stays the last.
      have hsplit : (b :: bs).splitOn 10 = [] :: piece :: pieces := by
        rw [List.splitOn_cons_eq_if_modifyHead, if_pos (by simpa using hb), hpieces]
      have hlast : ([] :: piece :: pieces).getLast? = (piece :: pieces).getLast? := rfl
      rw [hsplit, if_pos hb, hlast]
      split
      · rfl
      · rfl
    · -- Any other octet goes to the first piece, which may be the last.
      have hsplit : (b :: bs).splitOn 10 = (b :: piece) :: pieces := by
        rw [List.splitOn_cons_eq_if_modifyHead, if_neg (by simpa using hb), hpieces,
          List.modifyHead_cons]
      rw [hsplit, if_neg hb]
      cases pieces with
      | nil =>
        cases piece with
        | nil => rfl
        | cons c cs => rfl
      | cons next rest =>
        have hlast (first : List UInt8) :
            (first :: next :: rest).getLast? = (next :: rest).getLast? := rfl
        rw [hlast, hlast]
        by_cases hempty : (next :: rest).getLast? = some []
        · rw [if_pos hempty, if_pos hempty]
          rfl
        · rw [if_neg hempty, if_neg hempty]

/-! ### What a line says -/

/-- The text of a line without the blanks around it, if the line is
text. -/
def textOf? (octets : List UInt8) : Option (List Char) :=
  (Text.Utf8.decode? (dropReturn octets)).map Text.trim

/-- Whether a line is text. -/
def isText (octets : List UInt8) : Bool := (textOf? octets).isSome

/-- What a line says. -/
inductive Saying where
  /-- it is blank or a comment -/
  | silent
  /-- it holds an event -/
  | event (e : Event)
  /-- it is text that holds no event -/
  | broken (cause : Json.Fault)
  /-- it is no text -/
  | garbled

/-- What a line says, whatever the other lines say. -/
def saying (octets : List UInt8) : Saying :=
  match textOf? octets with
  | none => .garbled
  | some s =>
    if isSilent s then .silent
    else
      match Event.parse s with
      | .ok e => .event e
      | .error cause => .broken cause

namespace Saying

/-- The event of a line. -/
def event? : Saying → Option Event
  | event e => some e
  | _ => none

/-- The number of a line that is neither silent nor an event. -/
def malformed? (number : Nat) : Saying → Option Nat
  | silent | event _ => none
  | broken _ | garbled => some number

/-- Whether a line is not silent. -/
def speaks : Saying → Bool
  | silent => false
  | _ => true

/-- The item that reading the line gives. -/
def item? (number : Nat) : Saying → Option Item
  | silent => none
  | event e => some (.event e)
  | broken cause => some (.malformed number cause)
  | garbled => some .unreadable

end Saying

/-- A line gives what it says. -/
theorem readLine_eq (l : Line) : readLine l = (saying l.octets).item? l.number := by
  unfold readLine saying textOf?
  cases Text.Utf8.decode? (dropReturn l.octets) with
  | none => rfl
  | some cs =>
    dsimp only [Option.map_some]
    by_cases hsilent : isSilent (Text.trim cs)
    · rw [if_pos hsilent, if_pos hsilent]
      rfl
    · rw [if_neg hsilent, if_neg hsilent]
      cases Event.parse (Text.trim cs) with
      | ok e => rfl
      | error cause => rfl

/-- A line that is no text says that it is none, and no other line says
so. -/
theorem isText_eq_false_iff {octets : List UInt8} :
    isText octets = false ↔ saying octets = .garbled := by
  unfold saying isText
  cases textOf? octets with
  | none => simp
  | some s =>
    by_cases hsilent : isSilent s
    · simp [hsilent]
    · cases hparse : Event.parse s with
      | ok e => simp [hsilent, hparse]
      | error cause => simp [hsilent, hparse]

/-! ### What a recording gives -/

/-- The items of lines, the first of which has the number, if each of
them is read. -/
def told (number : Nat) (ls : List (List UInt8)) : List Item :=
  (ls.zipIdx number).filterMap fun l => (saying l.1).item? l.2

/-- The first line is told before the others. -/
theorem told_cons (number : Nat) (octets : List UInt8) (ls : List (List UInt8)) :
    told number (octets :: ls) = ((saying octets).item? number).toList ++ told (number + 1) ls := by
  unfold told
  simp only [List.filterMap_eq_flatMap_toList, List.zipIdx_cons, List.flatMap_cons]

/-- What ends the items of lines, if one of them is no text. -/
def cutShort (ls : List (List UInt8)) : List Item := if ls.all isText then [] else [.unreadable]

/-- A line that is text ends nothing. -/
theorem cutShort_cons {octets : List UInt8} (htext : isText octets) (ls : List (List UInt8)) :
    cutShort (octets :: ls) = cutShort ls := by
  simp [cutShort, htext]

/-- A line that is none ends the items. -/
theorem cutShort_cons_of_not {octets : List UInt8} (htext : isText octets = false)
    (ls : List (List UInt8)) : cutShort (octets :: ls) = [.unreadable] := by
  simp [cutShort, htext]

/-- Lines are read up to the first one that is no text. -/
theorem items_of_lines (size number start : Nat) (ls : List (List UInt8)) :
    (entriesOf (linesFrom size number start ls)).map Entry.item
      = told number (ls.takeWhile isText) ++ cutShort ls := by
  induction ls generalizing number start with
  | nil => rfl
  | cons octets ls ih =>
    rw [linesFrom, entriesOf, readLine_eq]
    by_cases htext : isText octets
    · rw [List.takeWhile_cons_of_pos htext, cutShort_cons htext, told_cons]
      cases hsaying : saying octets with
      | silent => exact ih ..
      | event e => exact congrArg (Item.event e :: ·) (ih ..)
      | broken cause => exact congrArg (Item.malformed number cause :: ·) (ih ..)
      | garbled =>
        rw [isText_eq_false_iff.mpr hsaying] at htext
        cases htext
    · -- Here reading stops, and the lines that follow are not looked at.
      have hgarbled : isText octets = false := by simpa using htext
      rw [List.takeWhile_cons_of_neg htext, cutShort_cons_of_not hgarbled,
        isText_eq_false_iff.mp hgarbled]
      rfl

/-! ### What a recording should give -/

/-- The event of an item. -/
def Item.event? : Item → Option Event
  | event e => some e
  | _ => none

/-- The line, by number, that an item reports. -/
def Item.line? : Item → Option Nat
  | malformed line _ => some line
  | _ => none

/-- The events of lines, each with the core that its line names. -/
def eventsOf (ls : List (List UInt8)) : List Event :=
  ls.filterMap fun octets => (saying octets).event?

/-- The numbers of the lines that are neither silent nor events, where
the first line has the number. -/
def malformedOf (number : Nat) (ls : List (List UInt8)) : List Nat :=
  (ls.zipIdx number).filterMap fun l => (saying l.1).malformed? l.2

/-- How many lines are not silent. -/
def spoken (ls : List (List UInt8)) : Nat := ls.countP fun octets => (saying octets).speaks

/-- The items of lines are as they should be if each line counts for
itself: all events come in the order of their lines, every line that is
neither silent nor an event is reported by its number, and the summary
counts the lines that are not silent. -/
structure Complete (ls : List (List UInt8)) (its : List Item) : Prop where
  events : its.filterMap Item.event? = eventsOf ls
  reports : its.filterMap Item.line? = malformedOf 1 ls
  total : (summary its).delivered + (summary its).malformed = spoken ls

section
variable (number : Nat) (octets : List UInt8) (ls : List (List UInt8))

/-- The event of the first line comes first. -/
theorem eventsOf_cons :
    eventsOf (octets :: ls) = (saying octets).event?.toList ++ eventsOf ls := by
  unfold eventsOf
  simp only [List.filterMap_eq_flatMap_toList, List.flatMap_cons]

/-- The number of the first line comes first, if it is malformed. -/
theorem malformedOf_cons : malformedOf number (octets :: ls)
    = ((saying octets).malformed? number).toList ++ malformedOf (number + 1) ls := by
  unfold malformedOf
  simp only [List.filterMap_eq_flatMap_toList, List.zipIdx_cons, List.flatMap_cons]

/-- The first line counts if it is not silent. -/
theorem spoken_cons : spoken (octets :: ls) = spoken ls + (saying octets).speaks.toNat := by
  unfold spoken
  rw [List.countP_cons]
  cases (saying octets).speaks with
  | false => rfl
  | true => rfl

/-- A line that is not silent is an event or malformed. -/
theorem Saying.speaks_eq (s : Saying) :
    s.speaks.toNat = s.event?.toList.length + (s.malformed? number).toList.length := by
  cases s with
  | silent => rfl
  | event e => rfl
  | broken cause => rfl
  | garbled => rfl

/-- The lines that are not silent are events or malformed. -/
theorem spoken_eq : spoken ls = (eventsOf ls).length + (malformedOf number ls).length := by
  induction ls generalizing number with
  | nil => rfl
  | cons octets ls ih =>
    rw [spoken_cons, eventsOf_cons, malformedOf_cons, ih (number + 1), Saying.speaks_eq number,
      List.length_append, List.length_append]
    omega

end

/-- The summary counts the events and the reports. -/
theorem summary_eq (its : List Item) :
    summary its = ⟨(its.filterMap Item.event?).length, (its.filterMap Item.line?).length⟩ := by
  -- From any summary on, each item counts once or not at all.
  have hcount (s : Summary) : its.foldl Summary.count s
      = ⟨s.delivered + (its.filterMap Item.event?).length,
        s.malformed + (its.filterMap Item.line?).length⟩ := by
    induction its generalizing s with
    | nil => rfl
    | cons item its ih =>
      rw [List.foldl_cons, ih]
      cases item with
      | event e => exact congrArg (Summary.mk · _) (Nat.add_right_comm ..)
      | malformed line cause => exact congrArg (Summary.mk _) (Nat.add_right_comm ..)
      | unreadable => rfl
  rw [summary, hcount]
  show Summary.mk (0 + _) (0 + _) = _
  rw [Nat.zero_add, Nat.zero_add]

/-! ### A recording up to its first line that is no text -/

section
variable (number : Nat) (ls : List (List UInt8))

/-- The items that are told have the events of all lines. -/
theorem events_told : (told number ls).filterMap Item.event? = eventsOf ls := by
  induction ls generalizing number with
  | nil => rfl
  | cons octets ls ih =>
    rw [told_cons, eventsOf_cons, List.filterMap_append, ih]
    cases saying octets with
    | silent => rfl
    | event e => rfl
    | broken cause => rfl
    | garbled => rfl

/-- They report all malformed lines by number if all lines are text. -/
theorem reports_told (htext : ∀ octets ∈ ls, isText octets) :
    (told number ls).filterMap Item.line? = malformedOf number ls := by
  induction ls generalizing number with
  | nil => rfl
  | cons octets ls ih =>
    obtain ⟨hfirst, hrest⟩ := List.forall_mem_cons.mp htext
    rw [told_cons, malformedOf_cons, List.filterMap_append, ih (number + 1) hrest]
    cases hsaying : saying octets with
    | silent => rfl
    | event e => rfl
    | broken cause => rfl
    | garbled =>
      -- A line that is no text would be malformed, and is not reported by its number.
      rw [isText_eq_false_iff.mpr hsaying] at hfirst
      cases hfirst

/-- What ends the items is neither an event nor a report with a number. -/
theorem filterMap_cutShort {α : Type} {f : Item → Option α} (h : f .unreadable = none) :
    (cutShort ls).filterMap f = [] := by
  unfold cutShort
  split
  · rfl
  · simp [h]

/-- Lines that are not looked at would have said something. -/
theorem spoken_takeWhile_lt (htext : ¬ ∀ octets ∈ ls, isText octets) :
    spoken (ls.takeWhile isText) < spoken ls := by
  induction ls with
  | nil => exact absurd (List.forall_mem_nil _) htext
  | cons octets ls ih =>
    by_cases hfirst : isText octets
    · have hrest : ¬ ∀ octets ∈ ls, isText octets := by
        intro hrest
        exact htext (List.forall_mem_cons.mpr ⟨hfirst, hrest⟩)
      have hlt := ih hrest
      rw [List.takeWhile_cons_of_pos hfirst, spoken_cons, spoken_cons]
      omega
    · have hsaying : saying octets = .garbled := isText_eq_false_iff.mp (by simpa using hfirst)
      rw [List.takeWhile_cons_of_neg hfirst, spoken_cons, hsaying]
      exact Nat.succ_pos _

end

/-- The items of a file are those of its lines up to one that is no text. -/
theorem items_eq (file : List UInt8) :
    items file = told 1 ((linesOf file).takeWhile isText) ++ cutShort (linesOf file) := by
  unfold items entries lines
  rw [items_of_lines, physicalLines_eq]

/-- The items of a recording are as they should be for the lines before
the first one that is no text. -/
theorem complete_takeWhile (file : List UInt8) :
    Complete ((linesOf file).takeWhile isText) (items file) := by
  have htext : ∀ octets ∈ (linesOf file).takeWhile isText, isText octets := by
    intro octets hmem
    exact List.all_eq_true.mp List.all_takeWhile octets hmem
  -- What ends the items is no event and has no number, so it adds nothing.
  have hevents : (items file).filterMap Item.event?
      = eventsOf ((linesOf file).takeWhile isText) := by
    rw [items_eq, List.filterMap_append, events_told, filterMap_cutShort _ rfl, List.append_nil]
  have hreports : (items file).filterMap Item.line?
      = malformedOf 1 ((linesOf file).takeWhile isText) := by
    rw [items_eq, List.filterMap_append, reports_told _ _ htext, filterMap_cutShort _ rfl,
      List.append_nil]
  refine ⟨hevents, hreports, ?_⟩
  rw [summary_eq, hevents, hreports, spoken_eq 1]

/-- Any octets as a recording. The items are those of the lines before the
first line that is no text, read one by one, and if there is such a line,
a report without a number follows and is the last. For the lines before
it all is as it should be: each event is delivered once, with the core
that its line names, in the order of the lines, each line that is
neither silent nor an event is reported once by its number, and the
summary adds up to the lines that are not silent. The same holds of all
lines if and only if all of them are text. -/
theorem complete_iff_all_text (file : List UInt8) :
    items file = told 1 ((linesOf file).takeWhile isText) ++ cutShort (linesOf file) ∧
    Complete ((linesOf file).takeWhile isText) (items file) ∧
    (Complete (linesOf file) (items file) ↔ ∀ octets ∈ linesOf file, isText octets) := by
  have hcomplete : Complete ((linesOf file).takeWhile isText) (items file) :=
    complete_takeWhile file
  refine ⟨items_eq file, hcomplete, ?_⟩
  constructor
  · -- Both totals are those of the summary, so no line was left out.
    intro hall
    by_contra htext
    have hlt := spoken_takeWhile_lt (linesOf file) htext
    rw [← hall.total, ← hcomplete.total] at hlt
    exact Nat.lt_irrefl _ hlt
  · intro htext
    rwa [List.takeWhile_eq_self_iff.mpr htext] at hcomplete

/-- A line that is no text stands between two events, and the second of
them is not delivered. -/
theorem stray_octet_hides_event :
    let event := Text.Utf8.encode ['\x7b', '\x7d']
    let file := event ++ [10, 255, 10] ++ event ++ [10]
    eventsOf (linesOf file) = [default, default] ∧ malformedOf 1 (linesOf file) = [2] ∧
      items file = [.event default, .unreadable] ∧ summary (items file) = ⟨1, 0⟩ ∧
      ¬ Complete (linesOf file) (items file) := by
  refine ⟨by decide, by decide, by decide, by decide, ?_⟩
  intro hcomplete
  exact absurd hcomplete.reports (by decide)

/-! ### Who hears of it -/

/-- Of one item for each of some numbers, one belongs to a number among
them. -/
theorem filter_map_range {α : Type} {n i : Nat} (hi : i < n) (make : Nat → α) (number : α → Nat)
    (hmake : ∀ j, number (make j) = j) :
    ((List.range n).map make).filter (fun x => number x = i) = [make i] := by
  have hone : (List.range n).filter (fun j => j = i) = [i] := by
    rw [List.filter_eq, List.count_eq_one_of_mem List.nodup_range (List.mem_range.mpr hi)]
    rfl
  rw [List.filter_map]
  simp only [Function.comp_def, hmake, hone, List.map_singleton]

/-- The calls of one handler. -/
def callsOf (i : Nat) (calls : List Call) : List Call := calls.filter fun c => c.handler = i

/-- What a listener hears. -/
def heardBy (i : Nat) (reports : List Report) : List Notice :=
  (reports.filter fun r => r.listener = i).map Report.notice

/-- Each handler is called for every event, in order, on the core of the
event. How many handlers there are makes no difference to it. -/
theorem calls_of_handler {handlers i : Nat} (hi : i < handlers) (cores : Nat)
    (processor : Nat → Nat) (its : List Item) :
    callsOf i (calls handlers cores processor its)
      = its.zipIdx.filterMap fun (item, n) =>
          item.event?.map fun e => ⟨i, coreOf e (processor n) cores, e.notification⟩ := by
  unfold callsOf calls
  rw [List.filter_flatMap, List.filterMap_eq_flatMap_toList]
  congr 1
  funext ⟨item, n⟩
  cases item with
  | event e => exact filter_map_range hi _ Call.handler fun _ => rfl
  | malformed line cause => rfl
  | unreadable => rfl

/-- Each listener is told of all trouble, in order: of what goes wrong if
it is alone, and the wording of it otherwise. -/
theorem reports_of_listener {listeners i : Nat} (hi : i < listeners) (its : List Item) :
    heardBy i (reports listeners its)
      = (its.filterMap Item.trouble?).map fun t =>
          if listeners = 1 then .typed t else .worded t.message := by
  unfold heardBy reports
  rw [List.filter_flatMap, List.map_flatMap, List.map_eq_flatMap]
  congr 1
  funext t
  unfold Trouble.reports
  split
  · -- Alone, it is the first of the listeners.
    rename_i hone
    obtain rfl : i = 0 := by omega
    rfl
  · exact congrArg (List.map Report.notice) (filter_map_range hi _ Report.listener fun _ => rfl)

end RuleTrace.Replay
