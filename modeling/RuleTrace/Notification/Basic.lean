/-!
# `RuleTrace.Notification.Basic`: what the packet filter reports

One notification is a read-only view of the packet filter at a trace
point: the packet's buffer as far as it was copied, the hook and its
devices, the chain and table, the rule and its verdict.
-/

set_option autoImplicit false

namespace RuleTrace

/-- The copied part of a packet and the fields that identify it. -/
structure Packet where
  /-- where the packet's buffer lives -/
  identity : UInt64
  flowHash : UInt32
  /-- index of the interface on which the packet came in -/
  ingress : UInt32
  mark : UInt32
  /-- buffer contents from the buffer's head on -/
  data : List UInt8
  /-- offset of the link-layer header, when there is one -/
  linkOffset : Option UInt16
  /-- offset of the network header -/
  networkOffset : UInt16
  deriving DecidableEq, Repr, Inhabited

/-- A network device. -/
structure Device where
  index : UInt32
  kind : UInt16
  name : String
  deriving DecidableEq, Repr, Inhabited

/-- The protocol family a hook runs for and the devices involved. -/
structure Hook where
  family : UInt8
  ingress : Option Device
  egress : Option Device
  deriving DecidableEq, Repr, Inhabited

/-- The chain of the rule and the table it belongs to. -/
structure Chain where
  tableName : String
  tableHandle : UInt64
  family : UInt8
  name : String
  handle : UInt64
  policy : UInt8
  deriving DecidableEq, Repr, Inhabited

/-- A verdict code and, for jumps, the chain gone to. -/
structure Ruling where
  code : Int32
  target : Option String
  deriving DecidableEq, Repr, Inhabited

/-- One report of the packet filter. -/
structure Notification where
  packet : Packet
  hook : Hook
  chain : Chain
  ruleHandle : UInt64
  eventKind : UInt8
  verdict : Ruling
  deriving DecidableEq, Repr, Inhabited

end RuleTrace
