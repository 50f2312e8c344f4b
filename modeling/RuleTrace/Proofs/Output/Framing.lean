import RuleTrace.Proofs.Json.Printable
import RuleTrace.Proofs.Output.Refusals
import RuleTrace.Proofs.Output.Runs
import RuleTrace.Proofs.Text.Utf8
import RuleTrace.Proofs.View.Text
import RuleTrace.Text.Civil

/-!
# `RuleTrace.Proofs.Output.Framing`: where the lines of the output end

A printer ends each line that it writes with a line feed, so the output
ends with one. The JSON format escapes what names hold, so its lines have
no other. The text format shows names as they are. A line feed in the
name of a table, a chain, a jump target or an interface is in the output,
and there it looks like the end of a line.

So the line feeds of the output are the lines that were written and the
line feeds in the names of the records that they show
(`feeds_are_lines_and_names`). One such name is enough for the output to
have a line more than were written (`newline_in_name_splits_line`).
-/

set_option autoImplicit false

namespace RuleTrace

namespace Record

/-- The names that a line shows of a record, as octets. -/
def names (r : Record) : List (List UInt8) :=
  [r.table.bytes, r.chain.bytes, r.jumpTarget.bytes, r.ingress.name.bytes, r.egress.name.bytes]

/-- How many line feeds the names have. -/
def nameFeeds (r : Record) : Nat := r.names.flatten.count 10

/-- The names have no line feed if none of them has one. -/
theorem nameFeeds_eq_zero_iff (r : Record) : r.nameFeeds = 0 ↔ ∀ name ∈ r.names, 10 ∉ name := by
  rw [nameFeeds, List.count_eq_zero]
  simp only [List.mem_flatten, not_exists, not_and]

end Record

/-! ### Line feeds of a time -/

namespace Text.Civil

/-- Digits and zeros before them are no line feeds. -/
theorem newline_not_mem_padLeft (width n : Nat) : '\n' ∉ padLeft '0' width (decimal n) := by
  intro hmem
  exact absurd (isDigit_of_mem_padLeft hmem) (by decide)

/-- The text of a date has no line feed. -/
theorem newline_not_mem_dateText (d : Date) : '\n' ∉ d.text := by
  simp [Date.text, two, newline_not_mem_padLeft]

/-- The text of a moment has no line feed. -/
theorem newline_not_mem_stamp (nanos : Nat) : '\n' ∉ stamp nanos := by
  unfold stamp
  generalize nanos / 1000000000 = seconds
  generalize nanos % 1000000000 / 1000 = micros
  simp only [two, List.mem_append, List.mem_cons, List.not_mem_nil, newline_not_mem_dateText,
    newline_not_mem_padLeft]
  decide

end Text.Civil

/-! ### Line feeds of a line -/

namespace View

open Text

/-- A dash for an empty name brings no line feed. -/
theorem count_dashed (s : String) : (dashed s).count '\n' = s.toList.count '\n' := by
  unfold dashed
  split
  · rename_i hempty
    rw [String.isEmpty_iff.mp hempty]
    decide
  · rfl

/-- The jump target is shown with its line feeds. -/
theorem count_jumpText (v : View) : v.jumpText.count '\n' = v.jumpTarget.toList.count '\n' := by
  have hlabel : " jt=".toList.count '\n' = 0 := by decide
  unfold jumpText
  split
  · rename_i hempty
    rw [String.isEmpty_iff.mp hempty]
    rfl
  · rw [List.count_append, hlabel, Nat.zero_add]

/-- A name is shown with all of its line feeds. -/
theorem count_name {n : Nat} (name : FixedName n) :
    (String.ofList name.text).toList.count '\n' = name.bytes.count 10 := by
  rw [String.toList_ofList]
  exact Utf8.count_decodeLossy name.bytes

/-- The columns have no line feed. -/
theorem newline_not_mem_fiveTuple (r : Record) : '\n' ∉ (ofRecord r).fiveTuple := by
  have hsource := not_mem_endpoint (c := '\n') (by decide) r.sourceAddress r.ports.source
  have hdestination :=
    not_mem_endpoint (c := '\n') (by decide) r.destinationAddress r.ports.destination
  have hprotocol := (isWord_protocol r).not_mem (c := '\n') (by decide)
  -- The labels are fixed, and the columns have only their own characters.
  have hlabels : ∀ label ∈ ["src=", " dst=", " proto="], '\n' ∉ label.toList := by decide
  intro hmem
  delta fiveTuple at hmem
  simp only [List.mem_append] at hmem
  rcases hmem with ((((hmem | hmem) | hmem) | hmem) | hmem) | hmem
  · exact hlabels "src=" (by decide) hmem
  · exact not_mem_padRight (by decide) hsource hmem
  · exact hlabels " dst=" (by decide) hmem
  · exact not_mem_padRight (by decide) hdestination hmem
  · exact hlabels " proto=" (by decide) hmem
  · exact not_mem_padRight (by decide) hprotocol hmem

/-- The line feeds of a line of the text format are those of the
names. -/
theorem count_textBody (r : Record) : (ofRecord r).textBody.count '\n' = r.nameFeeds := by
  have hword : ∀ {s : List Char}, IsWord s → s.count '\n' = 0 := by
    intro s hs
    exact List.count_eq_zero.mpr (hs.not_mem (by decide))
  have hspace : ∀ s : List Char, (' ' :: s).count '\n' = s.count '\n' := by
    intro s
    exact List.count_cons_of_ne (by decide)
  have htrace : "trace=".toList.count '\n' = 0 := by decide
  have hhandle : " handle=".toList.count '\n' = 0 := by decide
  have hverdict : " verdict=".toList.count '\n' = 0 := by decide
  have hingress : " iif=".toList.count '\n' = 0 := by decide
  have hegress : " oif=".toList.count '\n' = 0 := by decide
  have hlength : " len=".toList.count '\n' = 0 := by decide
  have hid : (hex 8 (ofRecord r).traceId.toNat).count '\n' = 0 := by
    refine List.count_eq_zero.mpr ?_
    intro hmem
    exact absurd (isSome_hexDigit?_of_mem_hex hmem) (by decide)
  have hcolumns : (ofRecord r).fiveTuple.count '\n' = 0 :=
    List.count_eq_zero.mpr (newline_not_mem_fiveTuple r)
  -- Only the names are left.
  have htable : (ofRecord r).table.toList.count '\n' = r.table.bytes.count 10 := count_name _
  have hchain : (ofRecord r).chain.toList.count '\n' = r.chain.bytes.count 10 := count_name _
  have hjump : (ofRecord r).jumpTarget.toList.count '\n' = r.jumpTarget.bytes.count 10 :=
    count_name _
  have hiif : (ofRecord r).ingress.toList.count '\n' = r.ingress.name.bytes.count 10 :=
    count_name _
  have hoif : (ofRecord r).egress.toList.count '\n' = r.egress.name.bytes.count 10 := count_name _
  have hnames : r.nameFeeds = r.table.bytes.count 10 + r.chain.bytes.count 10
      + r.jumpTarget.bytes.count 10 + r.ingress.name.bytes.count 10
      + r.egress.name.bytes.count 10 := by
    simp [Record.nameFeeds, Record.names, Nat.add_assoc]
  rw [hnames]
  delta textBody
  simp only [List.count_append, hspace, htrace, hid, hword (isWord_family r), htable, hchain,
    hhandle, hword (isWord_decimal _), hverdict, hword (isWord_verdict r), count_jumpText, hjump,
    hingress, count_dashed, hiif, hegress, hoif, hcolumns, hlength]
  omega

end View

namespace Printer

open Text

/-- How many line feeds a record puts into its line, besides the one at
the end. -/
def strayFeeds (format : OutputFormat) (r : Record) : Nat :=
  match format with
  | .text => r.nameFeeds
  | .json => 0

/-- A line has the line feeds that its record puts into it. -/
theorem count_line {format : OutputFormat} {stamp : UInt64 → String} {h : Held} {r : Record}
    (hview : h.view = View.ofRecord r) (hstamp : ∀ time, '\n' ∉ (stamp time).toList) :
    (line format stamp h).count '\n' = strayFeeds format r := by
  cases format with
  | text =>
    have hbracket : "] ".toList.count '\n' = 0 := by decide
    -- None of the fixed parts of the line holds a line feed, nor do numbers and times.
    have hlabel : " cnt=".toList.count '\n' = 0 := by decide
    have hopening : ∀ s : List Char, ('[' :: s).count '\n' = s.count '\n' := by
      intro s
      exact List.count_cons_of_ne (by decide)
    have htime : (stamp h.time).toList.count '\n' = 0 := List.count_eq_zero.mpr (hstamp h.time)
    have hcount : (decimal h.count.toNat).count '\n' = 0 :=
      List.count_eq_zero.mpr ((View.isWord_decimal _).not_mem (by decide))
    show ('[' :: (stamp h.time).toList ++ "] ".toList ++ h.view.textBody ++ " cnt=".toList
      ++ decimal h.count.toNat).count '\n' = r.nameFeeds
    rw [hview]
    simp only [List.count_append, hopening, htime, hbracket, View.count_textBody, hlabel, hcount]
    omega
  | json =>
    refine List.count_eq_zero.mpr ?_
    -- A rendered value has all line feeds escaped.
    exact (Json.printable_render _).newline_not_mem

/-! ### Line feeds of the output -/

/-- The records that lines show after a history: the first of each run
that is finished if the printer folds, else all. -/
def shownRecords (format : OutputFormat) (folding : Bool) (calls : List Call) : List Record :=
  if folding then ((cut calls).finished format).map fun run => run.headD default
  else calls.filterMap Call.record?

/-- The lines have the line feeds that the records put into them, one
line for each record. -/
def Feeds (format : OutputFormat) (rs : List Record) (lines : List (List Char)) : Prop :=
  lines.map (List.count '\n') = rs.map (strayFeeds format)

/-- Lines that show runs have the line feeds of the first records. -/
theorem ShowRuns.feeds {format : OutputFormat} {moments : List (UInt64 → String)}
    {rs : List (List Record)} {lines : List (List Char)} (h : ShowRuns format moments rs lines)
    (hmoments : ∀ stamp ∈ moments, ∀ time, '\n' ∉ (stamp time).toList) :
    Feeds format (rs.map fun run => run.headD default) lines := by
  obtain ⟨stamps, hsub, hlength, rfl⟩ := h
  have hstamps : ∀ stamp ∈ stamps, ∀ time, '\n' ∉ (stamp time).toList := by
    intro stamp hmem
    exact hmoments stamp (hsub.subset hmem)
  clear hsub hmoments
  -- By induction on the runs, each of which has one of the moments.
  induction rs generalizing stamps with
  | nil =>
    rw [List.length_eq_zero_iff.mp hlength]
    rfl
  | cons run rs ih =>
    obtain ⟨stamp, stamps, rfl⟩ := List.exists_cons_of_length_eq_add_one hlength
    obtain ⟨hstamp, hrest⟩ := List.forall_mem_cons.mp hstamps
    have hline : (line format stamp (heldFor format run)).count '\n'
        = strayFeeds format (run.headD default) := count_line rfl hstamp
    have htail := ih stamps (Nat.succ.inj hlength) hrest
    unfold Feeds at htail ⊢
    rw [List.zipWith_cons_cons, List.map_cons, List.map_cons, List.map_cons, hline, htail]

/-- Lines of their own have the line feeds of their records. -/
theorem feeds_ownLines (format : OutputFormat) {turns : List Turn}
    (hturns : ∀ t ∈ turns, ∀ time, '\n' ∉ (t.stamp time).toList) :
    Feeds format ((turns.map Turn.call).filterMap Call.record?)
      (turns.filterMap (Turn.ownLine format)) := by
  induction turns with
  | nil => rfl
  | cons t turns ih =>
    obtain ⟨hfirst, hrest⟩ := List.forall_mem_cons.mp hturns
    have htail := ih hrest
    unfold Feeds at htail ⊢
    obtain ⟨call, stamp⟩ := t
    cases call with
    -- A flush has no line of its own.
    | flush => exact htail
    | write r =>
      have hline : (line format stamp (hold format r)).count '\n' = strayFeeds format r :=
        count_line rfl hfirst
      show (line format stamp (hold format r)).count '\n' :: _ = strayFeeds format r :: _
      rw [hline]
      exact congrArg _ htail

/-- One line feed ends each line. -/
theorem count_text {format : OutputFormat} {rs : List Record} {s : Sink}
    (h : Feeds format rs s.lines) :
    s.text.count '\n' = s.lines.length + tally (strayFeeds format) rs := by
  unfold Sink.text
  generalize s.lines = lines at h ⊢
  induction rs generalizing lines with
  | nil =>
    rw [List.map_eq_nil_iff.mp h]
    rfl
  -- The first line has the line feeds of its record and one at its end.
  | cons r rs ih =>
    obtain ⟨first, rest, rfl, hfirst, hrest⟩ := List.map_eq_cons_iff.mp h
    have hcount := ih rest hrest
    rw [List.flatMap_cons, List.count_append, List.count_append, hcount, hfirst, tally_cons,
      List.length_cons, List.count_singleton_self]
    omega

/-- After a line the text ends with a line feed. -/
theorem getLast?_text {s : Sink} (h : s.lines ≠ []) : s.text.getLast? = some '\n' := by
  obtain ⟨front, last, hlines⟩ := List.eq_nil_or_concat s.lines |>.resolve_left h
  simp [Sink.text, hlines]

/-- So do its octets, if there are any. -/
theorem getLast?_encode_text {s : Sink} (h : Utf8.encode s.text ≠ []) :
    (Utf8.encode s.text).getLast? = some 10 := by
  have hlines : s.lines ≠ [] := by
    intro hnil
    rw [Sink.text, hnil] at h
    exact h rfl
  obtain ⟨front, htext⟩ := List.getLast?_eq_some_iff.mp (getLast?_text hlines)
  have hend : Utf8.encode ['\n'] = [10] := by decide
  rw [htext, Utf8.encode, List.flatMap_append]
  show (Utf8.encode front ++ Utf8.encode ['\n']).getLast? = _
  rw [hend, List.getLast?_concat]

/-- What a printer shows after a history, one line for each record that is
shown, and the count of these lines. -/
theorem feeds_afterAll (format : OutputFormat) (folding : Bool) {turns : List Turn}
    (hturns : ∀ t ∈ turns, ∀ time, '\n' ∉ (t.stamp time).toList) :
    let p := (new format folding .empty).afterAll turns
    Feeds format (shownRecords format folding (turns.map Turn.call)) p.sink.lines ∧
      p.count = p.sink.lines.length := by
  intro p
  cases folding with
  | true =>
    have htells : p.Tells format (turns.map Turn.stamp) (cut (turns.map Turn.call)) :=
      tells_afterAll format turns
    have hmoments : ∀ stamp ∈ turns.map Turn.stamp, ∀ time, '\n' ∉ (stamp time).toList := by
      intro stamp hmem
      obtain ⟨t, ht, rfl⟩ := List.mem_map.mp hmem
      exact hturns t ht
    -- A printer that folds shows runs, each by its first record.
    exact ⟨htells.written.lines.feeds hmoments, htells.written.count_eq⟩
  | false =>
    have hplain : p.Plain format (turns.filterMap (Turn.ownLine format)) :=
      plain_afterAll format turns
    refine ⟨?_, ?_⟩
    · rw [hplain.lines_eq]
      exact feeds_ownLines format hturns
    · rw [hplain.count_eq, hplain.lines_eq]

/-- No line feed comes from a name in the JSON format, or if no name has
one. -/
theorem tally_strayFeeds_eq_zero_iff (format : OutputFormat) (rs : List Record) :
    tally (strayFeeds format) rs = 0 ↔
      format = .json ∨ ∀ r ∈ rs, ∀ name ∈ r.names, 10 ∉ name := by
  rw [tally_eq_zero_iff]
  cases format with
  | text =>
    simp only [strayFeeds, Record.nameFeeds_eq_zero_iff, reduceCtorEq, false_or]
  | json =>
    simp [strayFeeds]

/-- Any records written and flushes in between, in any order, with a sink
that takes all lines and a clock that shows times without line feeds.

The count of lines is the number of records that are shown, and the output
ends with a line feed unless it is empty. Its line feeds are one for each
line and those in the names of the records shown, if the format is the text
format. So they are as many as the count says if and only if the format is
the JSON format or no name of a record shown has a line feed. -/
theorem feeds_are_lines_and_names (format : OutputFormat) (folding : Bool) (turns : List Turn)
    (hturns : ∀ t ∈ turns, ∀ time, '\n' ∉ (t.stamp time).toList) :
    let p := (new format folding .empty).afterAll turns
    let shown := shownRecords format folding (turns.map Turn.call)
    let output := Utf8.encode p.sink.text
    p.count = shown.length ∧
      output.count 10 = p.count + tally (strayFeeds format) shown ∧
      (output ≠ [] → output.getLast? = some 10) ∧
      (output.count 10 = p.count ↔
        format = .json ∨ ∀ r ∈ shown, ∀ name ∈ r.names, 10 ∉ name) := by
  intro p shown output
  obtain ⟨hfeeds, hlines⟩ := feeds_afterAll format folding hturns
  have hcount : p.count = shown.length := by
    have hlength := congrArg List.length hfeeds
    rw [List.length_map, List.length_map] at hlength
    exact hlines.trans hlength
  have houtput : output.count 10 = p.count + tally (strayFeeds format) shown := by
    show (Utf8.encode p.sink.text).count 10 = _
    rw [Utf8.count_encode, count_text hfeeds, ← hlines]
  refine ⟨hcount, houtput, ?_, ?_⟩
  · intro hne
    exact getLast?_encode_text hne
  · rw [← tally_strayFeeds_eq_zero_iff, houtput]
    omega

/-- Times as dates and times of day have no line feed, so all of this holds
for them: here for a record of a chain whose name is a line feed and an
`a`. -/
theorem feeds_of_named_feed :
    let stamp : UInt64 → String := fun time => String.ofList (Civil.stamp time.toNat)
    let r : Record := { (default : Record) with chain := .ofBytes 64 [10, 97] }
    let turns : List Turn := [⟨.write r, stamp⟩, ⟨.flush, stamp⟩]
    let p := (new .text true .empty).afterAll turns
    (∀ t ∈ turns, ∀ time, '\n' ∉ (t.stamp time).toList) ∧
      (Utf8.encode p.sink.text).count 10
        = p.count + tally (strayFeeds .text) (shownRecords .text true (turns.map Turn.call)) := by
  intro stamp r turns p
  have hstamps : ∀ t ∈ turns, ∀ time, '\n' ∉ (t.stamp time).toList := by
    intro t ht time
    have hstamp : t.stamp = stamp := by
      simp only [turns, List.mem_cons, List.not_mem_nil, or_false] at ht
      rcases ht with rfl | rfl
      · rfl
      · rfl
    -- A civil time is digits and signs.
    rw [hstamp, String.toList_ofList]
    exact Civil.newline_not_mem_stamp time.toNat
  exact ⟨hstamps, (feeds_are_lines_and_names .text true turns hstamps).2.1⟩

/-- A record of a chain whose name has a line feed is written. The printer
counts one line, and the output has two. -/
theorem newline_in_name_splits_line :
    let stamp : UInt64 → String := fun _ => ""
    let r : Record := { (default : Record) with
      table := .ofBytes 64 [102, 105, 108, 116, 101, 114]
      chain := .ofBytes 64 [105, 110, 10, 112, 117, 116] }
    let p := (new .text false .empty).afterAll [⟨.write r, stamp⟩]
    p.count = 1 ∧ (Utf8.encode p.sink.text).count 10 = 2 := by
  exact ⟨rfl, by decide⟩

end Printer

end RuleTrace
