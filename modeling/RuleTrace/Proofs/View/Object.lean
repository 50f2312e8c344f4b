import RuleTrace.Proofs.Output.Line

/-!
# `RuleTrace.Proofs.View.Object`: what the object of a line tells

A line of the JSON format is the compact text of an object. It tells the
view, the count and the time, nineteen properties in all
(`Report.properties`). Ten of them are left out when they are empty or
zero: jump target, interfaces, addresses, ports and the time.

No two properties have one name. So a reader of the object finds each of
them under its name, or finds nothing and knows that it is empty or zero
(`Report.ofMembers?_written`). Names are read back whatever they hold, for
the text of an object is read back (`Json.readAll_render`).

The key of the JSON format is the object with count zero and without a
time. A reader can tell the view from it, so records have the same key if
and only if they have the same view (`Printer.json_keys_tell_views`).
-/

set_option autoImplicit false

namespace RuleTrace

/-- What a line of the JSON format tells. -/
structure Report where
  view : View
  count : UInt64
  stamp : String
  deriving DecidableEq, Repr

/-- One thing that an object can tell, and whether it is left out. -/
structure Property where
  name : String
  value : Json.Value
  leftOut : Bool

namespace Property

def number (name : String) (n : Nat) : Property := ⟨name, .number (.natural n), false⟩

def text (name s : String) : Property := ⟨name, .string s, false⟩

/-- A text that is left out when it is empty. -/
def optionalText (name s : String) : Property := ⟨name, .string s, s.isEmpty⟩

/-- A port that is left out when it is zero. -/
def optionalPort (name : String) (port : UInt16) : Property :=
  ⟨name, .number (.natural port.toNat), port = 0⟩

/-- The member that is written, unless it is left out. -/
def member? (p : Property) : Option (String × Json.Value) :=
  if p.leftOut then none else some (p.name, p.value)

/-- A number is always written. -/
@[simp] theorem member?_number (name : String) (n : Nat) :
    (number name n).member? = some (name, .number (.natural n)) := rfl

/-- So is a text that may be empty. -/
@[simp] theorem member?_text (name s : String) : (text name s).member? = some (name, .string s) :=
  rfl

/-- A text is left out when it is empty. -/
theorem member?_optionalText (name s : String) :
    (optionalText name s).member? = if s.isEmpty then none else some (name, .string s) := rfl

/-- A port is left out when it is zero. -/
theorem member?_optionalPort (name : String) (port : UInt16) :
    (optionalPort name port).member?
      = if port = 0 then none else some (name, .number (.natural port.toNat)) := by
  simp [optionalPort, member?]

end Property

/-- What an object can tell of a view, in the order of the members. -/
def View.properties (v : View) : List Property :=
  [.number "trace_id" v.traceId.toNat, .text "table_name" v.table, .text "chain_name" v.chain,
    .optionalText "jt" v.jumpTarget, .number "handle" v.handle.toNat, .text "family" v.family,
    .optionalText "iif" v.ingress, .optionalText "oif" v.egress,
    .optionalText "hw-src" v.linkSource, .optionalText "hw-dst" v.linkDestination,
    .optionalText "ip-src" v.source, .optionalText "ip-dst" v.destination,
    .optionalPort "sport" v.sourcePort, .optionalPort "dport" v.destinationPort,
    .number "len" v.length.toNat, .text "proto" v.protocol, .text "verdict" v.verdict]

/-- What an object can tell: first the view, then the count and the time. -/
def Report.properties (x : Report) : List Property :=
  x.view.properties ++ [.number "cnt" x.count.toNat, .optionalText "timestamp" x.stamp]

/-- The members that are written. -/
def written (ps : List Property) : List (String × Json.Value) := ps.filterMap Property.member?

/-- Without properties nothing is written. -/
@[simp] theorem written_nil : written [] = [] := rfl

/-- The first property comes first, unless it is left out. -/
theorem written_cons (p : Property) (ps : List Property) :
    written (p :: ps) = p.member?.toList ++ written ps := by
  unfold written
  rw [List.filterMap_cons]
  cases p.member? with
  | none => rfl
  | some m => rfl

/-- No two properties of a report have one name. -/
theorem Report.nodup_names (x : Report) : (x.properties.map Property.name).Nodup := by
  show List.Nodup ["trace_id", "table_name", "chain_name", "jt", "handle", "family", "iif", "oif",
    "hw-src", "hw-dst", "ip-src", "ip-dst", "sport", "dport", "len", "proto", "verdict", "cnt",
    "timestamp"]
  -- The names do not depend on what the report holds.
  decide

/-- The members of a line are those of its report. -/
theorem View.members_eq_written (v : View) (stamp : String) (count : UInt64) :
    v.members stamp count = written (Report.properties ⟨v, count, stamp⟩) := by
  -- The members are left out by the same tests.
  have htext : ∀ name s, optionalText name s = (Property.optionalText name s).member?.toList := by
    intro name s
    rw [Property.member?_optionalText, optionalText]
    split
    · rfl
    · rfl
  have hport : ∀ name port,
      optionalPort name port = (Property.optionalPort name port).member?.toList := by
    intro name port
    rw [Property.member?_optionalPort, optionalPort]
    split
    · rfl
    · rfl
  simp [members, htext, hport, Report.properties, properties, written_cons]

/-! ### Finding a property -/

/-- The names of the members are those of the properties that are not left
out, in order. -/
theorem names_written_sublist (ps : List Property) :
    ((written ps).map Prod.fst).Sublist (ps.map Property.name) := by
  induction ps with
  | nil => exact List.Sublist.refl _
  | cons p ps ih =>
    rw [written_cons, List.map_append, List.map_cons]
    unfold Property.member?
    -- The first name is skipped or kept.
    split
    · exact ih.cons _
    · exact ih.cons_cons _

/-- The members tell the property: its value is found under its name, or
nothing is if it is left out. -/
def Property.ToldBy (p : Property) (ms : List (String × Json.Value)) : Prop :=
  ms.lookup p.name = p.member?.map Prod.snd

/-- Where names differ, each property is told. -/
theorem toldBy_written {ps : List Property} (hnames : (ps.map Property.name).Nodup) :
    ∀ p ∈ ps, p.ToldBy (written ps) := by
  induction ps with
  | nil => exact List.forall_mem_nil _
  | cons q ps ih =>
    obtain ⟨hfirst, hrest⟩ := List.nodup_cons.mp hnames
    intro p hp
    show (written (q :: ps)).lookup p.name = p.member?.map Prod.snd
    rw [written_cons]
    rcases List.mem_cons.mp hp with rfl | hp
    · -- If the property is left out, no other member has its name.
      have habsent : (written ps).lookup p.name = none := by
        refine List.lookup_eq_none_iff.mpr ?_
        intro m hm
        have hne : p.name ≠ m.1 := by
          intro heq
          exact hfirst (heq ▸ (names_written_sublist ps).subset (List.mem_map_of_mem hm))
        simpa using hne
      unfold Property.member?
      split
      · exact habsent
      · simp
    · have hne : p.name ≠ q.name := by
        intro heq
        exact hfirst (heq ▸ List.mem_map_of_mem hp)
      have hother : q.member?.toList.lookup p.name = none := by
        unfold Property.member?
        split
        · rfl
        · simp [hne]
      rw [List.lookup_append, hother]
      exact ih hrest p hp

/-! ### Reading an object -/

/-- The number under a name. -/
def numberAt? (ms : List (String × Json.Value)) (name : String) : Option Nat :=
  match ms.lookup name with
  | some (.number (.natural n)) => some n
  | _ => none

/-- The text under a name. -/
def textAt? (ms : List (String × Json.Value)) (name : String) : Option String :=
  match ms.lookup name with
  | some (.string s) => some s
  | _ => none

/-- The text under a name, empty if there is no such member. -/
def textOrEmpty? (ms : List (String × Json.Value)) (name : String) : Option String :=
  if (ms.lookup name).isNone then some "" else textAt? ms name

/-- The port under a name, zero if there is no such member. -/
def portOrZero? (ms : List (String × Json.Value)) (name : String) : Option UInt16 :=
  if (ms.lookup name).isNone then some 0 else (numberAt? ms name).map UInt16.ofNat

/-- The view that an object tells. -/
def View.ofMembers? (ms : List (String × Json.Value)) : Option View := do
  let traceId ← numberAt? ms "trace_id"
  let table ← textAt? ms "table_name"
  let chain ← textAt? ms "chain_name"
  let jumpTarget ← textOrEmpty? ms "jt"
  let handle ← numberAt? ms "handle"
  let family ← textAt? ms "family"
  let ingress ← textOrEmpty? ms "iif"
  let egress ← textOrEmpty? ms "oif"
  let linkSource ← textOrEmpty? ms "hw-src"
  let linkDestination ← textOrEmpty? ms "hw-dst"
  let source ← textOrEmpty? ms "ip-src"
  let destination ← textOrEmpty? ms "ip-dst"
  let sourcePort ← portOrZero? ms "sport"
  let destinationPort ← portOrZero? ms "dport"
  let length ← numberAt? ms "len"
  let protocol ← textAt? ms "proto"
  let verdict ← textAt? ms "verdict"
  return {
    traceId := .ofNat traceId, table, chain, jumpTarget, handle := .ofNat handle, family, ingress,
    egress, linkSource, linkDestination, source, destination, sourcePort, destinationPort,
    length := .ofNat length, protocol, verdict }

/-- The report that an object tells. -/
def Report.ofMembers? (ms : List (String × Json.Value)) : Option Report := do
  let view ← View.ofMembers? ms
  let count ← numberAt? ms "cnt"
  let stamp ← textOrEmpty? ms "timestamp"
  return ⟨view, .ofNat count, stamp⟩

namespace Property.ToldBy

variable {ms : List (String × Json.Value)} {name : String}

/-- A number is read under its name. -/
theorem numberAt?_eq {n : Nat} (h : (Property.number name n).ToldBy ms) :
    numberAt? ms name = some n := by
  have hlookup : ms.lookup name = some (.number (.natural n)) := h
  rw [numberAt?, hlookup]

/-- A text is read under its name. -/
theorem textAt?_eq {s : String} (h : (Property.text name s).ToldBy ms) :
    textAt? ms name = some s := by
  have hlookup : ms.lookup name = some (.string s) := h
  rw [textAt?, hlookup]

/-- A text that may be left out is read, or is empty. -/
theorem textOrEmpty?_eq {s : String} (h : (Property.optionalText name s).ToldBy ms) :
    textOrEmpty? ms name = some s := by
  have hlookup : ms.lookup name = (Property.optionalText name s).member?.map Prod.snd := h
  rw [textOrEmpty?, textAt?, hlookup, Property.member?_optionalText]
  -- What is not there was left out, as it was empty.
  cases hempty : s.isEmpty with
  | true => simp [String.isEmpty_iff.mp hempty]
  | false => simp

/-- A port that may be left out is read, or is zero. -/
theorem portOrZero?_eq {port : UInt16} (h : (Property.optionalPort name port).ToldBy ms) :
    portOrZero? ms name = some port := by
  have hlookup : ms.lookup name = (Property.optionalPort name port).member?.map Prod.snd := h
  rw [portOrZero?, numberAt?, hlookup, Property.member?_optionalPort]
  by_cases hzero : port = 0
  · simp [hzero]
  · simp [hzero]

end Property.ToldBy

/-- A reader that is told the properties of a view finds the view. -/
theorem View.ofMembers?_of_toldBy {v : View} {ms : List (String × Json.Value)}
    (h : ∀ p ∈ v.properties, p.ToldBy ms) : ofMembers? ms = some v := by
  simp only [properties, List.forall_mem_cons] at h
  obtain ⟨hid, htable, hchain, hjump, hhandle, hfamily, hingress, hegress, hlinkSource,
    hlinkDestination, hsource, hdestination, hsourcePort, hdestinationPort, hlength, hprotocol,
    hverdict, -⟩ := h
  rw [ofMembers?, hid.numberAt?_eq, htable.textAt?_eq, hchain.textAt?_eq, hjump.textOrEmpty?_eq,
    hhandle.numberAt?_eq, hfamily.textAt?_eq, hingress.textOrEmpty?_eq, hegress.textOrEmpty?_eq,
    hlinkSource.textOrEmpty?_eq, hlinkDestination.textOrEmpty?_eq, hsource.textOrEmpty?_eq,
    hdestination.textOrEmpty?_eq, hsourcePort.portOrZero?_eq, hdestinationPort.portOrZero?_eq,
    hlength.numberAt?_eq, hprotocol.textAt?_eq, hverdict.textAt?_eq]
  simp

/-- The members of a report tell its view. -/
theorem Report.tells_view (x : Report) :
    ∀ p ∈ x.view.properties, p.ToldBy (written x.properties) := by
  intro p hp
  exact toldBy_written x.nodup_names p (List.mem_append_left _ hp)

/-- A reader of the object finds the report. -/
theorem Report.ofMembers?_written (x : Report) : ofMembers? (written x.properties) = some x := by
  have htold := toldBy_written x.nodup_names
  have hcount : (Property.number "cnt" x.count.toNat).ToldBy (written x.properties) :=
    htold _ (by simp [properties])
  have hstamp : (Property.optionalText "timestamp" x.stamp).ToldBy (written x.properties) :=
    htold _ (by simp [properties])
  rw [ofMembers?, View.ofMembers?_of_toldBy x.tells_view, hcount.numberAt?_eq,
    hstamp.textOrEmpty?_eq]
  simp

/-- Count and time do not tell the view. -/
theorem View.name_of_mem_properties {v : View} {p : Property} (h : p ∈ v.properties) :
    p.name ≠ "cnt" ∧ p.name ≠ "timestamp" := by
  have hnames := Report.nodup_names ⟨v, 0, ""⟩
  rw [Report.properties, List.map_append] at hnames
  have hne := (List.nodup_append.mp hnames).2.2 p.name (List.mem_map_of_mem h)
  exact ⟨hne "cnt" (.head _), hne "timestamp" (.tail _ (.head _))⟩

/-- Views are the same if their objects are, but for count and time. -/
theorem View.eq_of_lookup {v w : View} {stamp stamp' : String} {count count' : UInt64}
    (h : ∀ name, name ≠ "cnt" → name ≠ "timestamp" →
      (v.members stamp count).lookup name = (w.members stamp' count').lookup name) : v = w := by
  -- The members of `w` tell the properties of `v`, so a reader finds both views in them.
  have htold : ∀ p ∈ v.properties, p.ToldBy (w.members stamp' count') := by
    intro p hp
    obtain ⟨hcount, hstamp⟩ := name_of_mem_properties hp
    have hlookup := Report.tells_view ⟨v, count, stamp⟩ p hp
    rw [← members_eq_written] at hlookup
    exact (h p.name hcount hstamp).symm.trans hlookup
  have hread := ofMembers?_of_toldBy htold
  rw [members_eq_written, ofMembers?_of_toldBy (Report.tells_view ⟨w, count', stamp'⟩)] at hread
  exact (Option.some.inj hread).symm

/-- The line of a report is read back as its members. -/
theorem Report.readAll_jsonLine (x : Report) :
    Json.readAll (Json.readValue 1) (x.view.jsonLine x.stamp x.count)
      = .ok (.object (written x.properties)) := by
  rw [View.jsonLine, Json.readAll_render (x.view.readable_members x.stamp x.count),
    View.members_eq_written]

namespace Printer

/-- The key tells the view. -/
theorem key_json_injective {v w : View} (h : key .json v = key .json w) : v = w := by
  -- A key is a line with count zero and no time.
  have hmembers : ∀ u : View, Json.readAll (Json.readValue 1) (key .json u)
      = .ok (.object (written (Report.properties ⟨u, 0, ""⟩))) := by
    intro u
    exact Report.readAll_jsonLine ⟨u, 0, ""⟩
  have hread := congrArg (Json.readAll (Json.readValue 1)) h
  rw [hmembers, hmembers] at hread
  have hreport := congrArg Report.ofMembers? (Json.Value.object.inj (Except.ok.inj hread))
  rw [Report.ofMembers?_written, Report.ofMembers?_written] at hreport
  exact congrArg Report.view (Option.some.inj hreport)

/-- The keys of the JSON format agree if and only if the views do.

A line of the JSON format is read back as an object, whatever the names,
the addresses and the time hold. Its members are the properties of the
report in order, without those that are left out. No name occurs twice,
and from the members a reader finds the view, the count and the time that
were written. -/
theorem json_keys_tell_views (stamp : UInt64 → String) (h : Held) :
    (∀ r s : Record, key .json (View.ofRecord r) = key .json (View.ofRecord s) ↔
      View.ofRecord r = View.ofRecord s) ∧
    (let report : Report := ⟨h.view, h.count, stamp h.time⟩
      ∃ ms, Json.readAll (Json.readValue 1) (line .json stamp h) = .ok (.object ms) ∧
        ms = report.properties.filterMap Property.member? ∧ (ms.map Prod.fst).Nodup ∧
        Report.ofMembers? ms = some report) := by
  refine ⟨?_, ?_⟩
  · intro r s
    constructor
    · intro hkey
      exact key_json_injective hkey
    · intro hview
      rw [hview]
  · intro report
    refine ⟨_, report.readAll_jsonLine, rfl, ?_, report.ofMembers?_written⟩
    exact report.nodup_names.sublist (names_written_sublist report.properties)

end Printer

end RuleTrace
