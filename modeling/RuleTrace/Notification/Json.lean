import RuleTrace.Json.Codec
import RuleTrace.Notification.Basic

/-!
# `RuleTrace.Notification.Json`: notifications as JSON

A notification is an object of objects (`Notification.codec`). A
recorded event is a notification and, if it is known, the core on which
it came, all in one object.

An event is read in two steps: the core straight from the text, all
other members as plain values, out of which the notification is made
once the object has ended (`Event.read`). So a fault of the text is
met before a value that does not fit, unless that value is the core.
-/

set_option autoImplicit false

namespace RuleTrace

open Json (Codec StructField Parsed Fault Value)

def Packet.fields : List (StructField Packet) :=
  [.of "identity" .word64 identity fun p x => { p with identity := x },
   .of "flow_hash" .word32 flowHash fun p x => { p with flowHash := x },
   .of "iif" .word32 ingress fun p x => { p with ingress := x },
   .of "mark" .word32 mark fun p x => { p with mark := x },
   .of "data" (.list .word8) data fun p x => { p with data := x },
   .of "mac_header" (.optional .word16) linkOffset fun p x => { p with linkOffset := x },
   .of "network_header" .word16 networkOffset fun p x => { p with networkOffset := x }]

def Packet.codec : Codec Packet := .struct fields default

def Device.fields : List (StructField Device) :=
  [.of "ifindex" .word32 index fun d x => { d with index := x },
   .of "dev_type" .word16 kind fun d x => { d with kind := x },
   .of "name" .text name fun d x => { d with name := x }]

def Device.codec : Codec Device := .struct fields default

def Hook.fields : List (StructField Hook) :=
  [.of "nfproto" .word8 family fun h x => { h with family := x },
   .of "in_dev" (.optional Device.codec) ingress fun h x => { h with ingress := x },
   .of "out_dev" (.optional Device.codec) egress fun h x => { h with egress := x }]

def Hook.codec : Codec Hook := .struct fields default

def Chain.fields : List (StructField Chain) :=
  [.of "table_name" .text tableName fun c x => { c with tableName := x },
   .of "table_handle" .word64 tableHandle fun c x => { c with tableHandle := x },
   .of "family" .word8 family fun c x => { c with family := x },
   .of "chain_name" .text name fun c x => { c with name := x },
   .of "chain_handle" .word64 handle fun c x => { c with handle := x },
   .of "policy" .word8 policy fun c x => { c with policy := x }]

def Chain.codec : Codec Chain := .struct fields default

def Ruling.fields : List (StructField Ruling) :=
  [.of "code" .int32 code fun v x => { v with code := x },
   .of "chain" (.optional .text) target fun v x => { v with target := x }]

def Ruling.codec : Codec Ruling := .struct fields default

def Notification.fields : List (StructField Notification) :=
  [.of "packet" Packet.codec packet fun n x => { n with packet := x },
   .of "hook" Hook.codec hook fun n x => { n with hook := x },
   .of "chain" Chain.codec chain fun n x => { n with chain := x },
   .of "rule_handle" .word64 ruleHandle fun n x => { n with ruleHandle := x },
   .of "trace_type" .word8 eventKind fun n x => { n with eventKind := x },
   .of "verdict" Ruling.codec verdict fun n x => { n with verdict := x }]

/-- The object of a notification. -/
def Notification.codec : Codec Notification := .struct fields default

/-- A recorded notification. -/
structure Event where
  /-- the core on which it came, if that is known -/
  core : Option Nat
  notification : Notification
  deriving DecidableEq, Repr, Inhabited

namespace Event

/-- How a core is written. -/
def coreCodec : Codec (Option Nat) := .optional (.natural UInt64.size)

/-- How many brackets may be open inside one another in a member of an
event, so that no more than 127 are open with its own. -/
def memberDepth : Nat := 126

/-- What was read of an event: the core, once it was met, and the other
members. -/
structure Partial where
  core : Option (Option Nat)
  members : List (String × Value)

/-- Reads one member, at its colon. -/
def readMember (p : Partial) (name : String) (s : List Char) : Parsed Partial :=
  if name = "cpu" then
    if p.core.isSome then .error .mismatch
    else (Json.afterColon coreCodec.read s).map fun (core, rest) =>
      ({ p with core := some core }, rest)
  else (Json.afterColon (Json.readValue memberDepth) s).map fun (v, rest) =>
    ({ p with members := p.members ++ [(name, v)] }, rest)

/-- The event that was read. -/
def Partial.event? (p : Partial) : Option Event :=
  (Codec.ofMembers? Notification.fields default [] p.members).map fun n =>
    ⟨p.core.getD none, n⟩

/-- Reads an event. -/
def read (s : List Char) : Parsed Event :=
  match Json.skipSpace s with
  | '\x7b' :: rest =>
    match Json.members Json.readString readMember ⟨none, []⟩ rest with
    | .error e => .error e
    | .ok (p, rest) => Json.orMismatch p.event? rest
  | s => Json.readScalarAs (fun _ => none) s

/-- Reads an event that is a whole text. -/
def parse (s : List Char) : Except Fault Event := Json.readAll read s

/-- The object of an event; an unknown core is left out. -/
def toValue (e : Event) : Value :=
  .object ((match e.core with
    | none => []
    | some core => [("cpu", .number (.natural core))])
    ++ Codec.toMembers Notification.fields e.notification)

/-- The compact text of an event. -/
def render (e : Event) : List Char := e.toValue.render

end Event

end RuleTrace
