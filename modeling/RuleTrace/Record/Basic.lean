import RuleTrace.Codes
import RuleTrace.Record.Address
import RuleTrace.Record.FixedName

/-!
# `RuleTrace.Record.Basic`: one traced rule match

A record says which rule matched, with which verdict, and what is
known of the packet. Several notifications of one packet may be
merged into one record; `count` says how many.

The network fields come in groups that are filled together: the link
addresses; the addresses of one protocol version with length and
protocol; the ports. A group that was never filled is zero, and a
zero address counts as absent.
-/

set_option autoImplicit false

namespace RuleTrace

/-- A pair of source and destination. -/
structure Endpoints (α : Type) where
  source : α
  destination : α
  deriving DecidableEq, Repr, Inhabited

/-- An interface as a record knows it. -/
structure Interface where
  index : UInt32
  kind : UInt16
  name : FixedName 16
  deriving DecidableEq, Repr, Inhabited

/-- One traced rule match. -/
structure Record where
  /-- correlation id of the packet -/
  id : UInt32
  /-- how many notifications the record stands for -/
  count : UInt64
  /-- when the first of them came, on the monotonic clock -/
  time : UInt64
  table : FixedName 64
  tableHandle : UInt64
  chain : FixedName 64
  chainHandle : UInt64
  ruleHandle : UInt64
  jumpTarget : FixedName 64
  eventKind : UInt8
  policy : UInt8
  verdict : Int32
  family : UInt8
  hookFamily : UInt8
  mark : UInt32
  ingress : Interface
  egress : Interface
  link : Endpoints Mac
  ipv4 : Endpoints (Octets 4)
  ipv6 : Endpoints (Octets 16)
  ports : Endpoints UInt16
  protocol : UInt8
  length : UInt16
  deriving DecidableEq, Repr, Inhabited

namespace Record

/-- The address to show: the short one if it is not zero, else the
long one if it is not zero. -/
def pickAddress (short : Octets 4) (long : Octets 16) : Option Address :=
  if !short.isZero then some (.v4 short)
  else if !long.isZero then some (.v6 long)
  else none

def sourceAddress (r : Record) : Option Address := pickAddress r.ipv4.source r.ipv6.source

def destinationAddress (r : Record) : Option Address :=
  pickAddress r.ipv4.destination r.ipv6.destination

end Record

end RuleTrace
