import RuleTrace.Json.Value
import RuleTrace.Record.Basic

/-!
# `RuleTrace.View.Basic`: a record made ready to print

A view holds what is printed of a record, as text and numbers. Names
are read as text, addresses that are absent are empty, and numbers
that have a name are shown by it. Neither the count nor the time
belongs to the view: lines with equal views differ in those only.

* `View.textBody` is the line of the text format, without time and
  count; `View.fiveTuple`, the part of it that tells the flow, is the
  key by which the text format folds lines.
* `View.members` are the members of the object of the JSON format;
  texts that are empty and ports that are zero are left out, where the
  field is one of those that may be absent. The compact object with
  count zero and without a time is the key of the JSON format.
-/

set_option autoImplicit false

namespace RuleTrace

/-- What is printed of a record. -/
structure View where
  traceId : UInt32
  table : String
  chain : String
  jumpTarget : String
  handle : UInt64
  family : String
  ingress : String
  egress : String
  linkSource : String
  linkDestination : String
  source : String
  destination : String
  sourcePort : UInt16
  destinationPort : UInt16
  length : UInt16
  protocol : String
  verdict : String
  deriving DecidableEq, Repr

namespace View

/-- A name if there is one, else the number. -/
def nameOr (name : Option String) (number : List Char) : String :=
  name.getD (String.ofList number)

/-- A hardware address, empty if it is zero. -/
def macText (m : Mac) : String := if m.isZero then "" else String.ofList m.text

/-- An address, empty if it is absent. -/
def addressText (a : Option Address) : String :=
  match a with
  | some a => String.ofList a.text
  | none => ""

/-- The view of a record. -/
def ofRecord (r : Record) : View where
  traceId := r.id
  table := String.ofList r.table.text
  chain := String.ofList r.chain.text
  jumpTarget := String.ofList r.jumpTarget.text
  handle := r.ruleHandle
  family := nameOr ((Family.ofCode? r.family).map Family.name) (Text.decimal r.family.toNat)
  ingress := String.ofList r.ingress.name.text
  egress := String.ofList r.egress.name.text
  linkSource := macText r.link.source
  linkDestination := macText r.link.destination
  source := addressText r.sourceAddress
  destination := addressText r.destinationAddress
  sourcePort := r.ports.source
  destinationPort := r.ports.destination
  length := r.length
  protocol := nameOr (protocolName? r.protocol) (Text.decimal r.protocol.toNat)
  verdict := nameOr ((Verdict.ofCode? r.verdict).map Verdict.name)
    (Text.signedDecimal r.verdict.toInt)

/-! ### The text format -/

/-- A text, or a dash for the empty one. -/
def dashed (s : String) : List Char := if s.isEmpty then ['-'] else s.toList

/-- Address and port; an address with colons is put in brackets, and
without an address the port is not shown. -/
def endpoint (address : String) (port : UInt16) : List Char :=
  let a := address.toList
  let p := ':' :: Text.decimal port.toNat
  if a.isEmpty then ['-']
  else if ':' ∈ a then '[' :: a ++ ']' :: p
  else a ++ p

/-- The flow: endpoints and protocol in columns. -/
def fiveTuple (v : View) : List Char :=
  "src=".toList ++ Text.padRight 25 (endpoint v.source v.sourcePort)
    ++ " dst=".toList ++ Text.padRight 25 (endpoint v.destination v.destinationPort)
    ++ " proto=".toList ++ Text.padRight 8 v.protocol.toList

/-- The part of the line that tells of a jump. -/
def jumpText (v : View) : List Char :=
  if v.jumpTarget.isEmpty then [] else " jt=".toList ++ v.jumpTarget.toList

/-- The line without time and count. -/
def textBody (v : View) : List Char :=
  "trace=".toList ++ Text.hex 8 v.traceId.toNat
    ++ ' ' :: v.family.toList ++ ' ' :: v.table.toList ++ ' ' :: v.chain.toList
    ++ " handle=".toList ++ Text.decimal v.handle.toNat
    ++ " verdict=".toList ++ v.verdict.toList
    ++ v.jumpText
    ++ " iif=".toList ++ dashed v.ingress
    ++ " oif=".toList ++ dashed v.egress
    ++ ' ' :: v.fiveTuple
    ++ " len=".toList ++ Text.decimal v.length.toNat

/-- A line of the text format. -/
def textLine (v : View) (stamp : String) (count : UInt64) : List Char :=
  '[' :: stamp.toList ++ "] ".toList ++ v.textBody ++ " cnt=".toList ++ Text.decimal count.toNat

/-! ### The JSON format -/

/-- A member for a text that may be absent. -/
def optionalText (key s : String) : List (String × Json.Value) :=
  if s.isEmpty then [] else [(key, .string s)]

/-- A member for a port, absent if it is zero. -/
def optionalPort (key : String) (port : UInt16) : List (String × Json.Value) :=
  if port = 0 then [] else [(key, .number (.natural port.toNat))]

/-- The members of the object, in order. -/
def members (v : View) (stamp : String) (count : UInt64) : List (String × Json.Value) :=
  [("trace_id", .number (.natural v.traceId.toNat)), ("table_name", .string v.table),
    ("chain_name", .string v.chain)]
    ++ optionalText "jt" v.jumpTarget
    ++ [("handle", .number (.natural v.handle.toNat)), ("family", .string v.family)]
    ++ optionalText "iif" v.ingress ++ optionalText "oif" v.egress
    ++ optionalText "hw-src" v.linkSource ++ optionalText "hw-dst" v.linkDestination
    ++ optionalText "ip-src" v.source ++ optionalText "ip-dst" v.destination
    ++ optionalPort "sport" v.sourcePort ++ optionalPort "dport" v.destinationPort
    ++ [("len", .number (.natural v.length.toNat)), ("proto", .string v.protocol),
      ("verdict", .string v.verdict), ("cnt", .number (.natural count.toNat))]
    ++ optionalText "timestamp" stamp

/-- A line of the JSON format. -/
def jsonLine (v : View) (stamp : String) (count : UInt64) : List Char :=
  (Json.Value.object (v.members stamp count)).render

end View

end RuleTrace
