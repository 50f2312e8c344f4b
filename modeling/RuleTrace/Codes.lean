/-!
# `RuleTrace.Codes`: numbers with names

A packet filter reports kinds of events, verdicts and protocol
families as small numbers. Each of these is an enumeration here,
with its number, its name, and the partial reading of a number back
(`ofCode?`). Protocol numbers stay numbers, since any of the 256 may
occur; `protocolName?` knows the common ones.
-/

set_option autoImplicit false

namespace RuleTrace

/-- What a notification reports about. -/
inductive EventKind where
  | unspec | policy | returned | rule
  deriving DecidableEq, Repr

namespace EventKind

def name : EventKind → String
  | unspec => "unspec"
  | policy => "policy"
  | returned => "return"
  | rule => "rule"

def code : EventKind → UInt8
  | unspec => 0
  | policy => 1
  | returned => 2
  | rule => 3

def ofCode? (n : UInt8) : Option EventKind :=
  match n with
  | 0 => some unspec
  | 1 => some policy
  | 2 => some returned
  | 3 => some rule
  | _ => none

end EventKind

/-- The outcome of a rule. The first six end or defer the packet's
evaluation, the others steer it through chains. -/
inductive Verdict where
  | drop | accept | stolen | queue | repeated | stop
  | continued | broke | jump | goto | returned
  deriving DecidableEq, Repr

namespace Verdict

def name : Verdict → String
  | drop => "drop"
  | accept => "accept"
  | stolen => "stolen"
  | queue => "queue"
  | repeated => "repeat"
  | stop => "stop"
  | continued => "continue"
  | broke => "break"
  | jump => "jump"
  | goto => "goto"
  | returned => "return"

def code : Verdict → Int32
  | drop => 0
  | accept => 1
  | stolen => 2
  | queue => 3
  | repeated => 4
  | stop => 5
  | continued => -1
  | broke => -2
  | jump => -3
  | goto => -4
  | returned => -5

/-- Every verdict. -/
def all : List Verdict :=
  [drop, accept, stolen, queue, repeated, stop, continued, broke, jump, goto, returned]

/-- Reads a verdict code. A code that is not negative carries an
argument above its low octet (the queue's number), so only that octet
counts. -/
def ofCode? (n : Int32) : Option Verdict :=
  let key := if 0 ≤ n then n &&& 0xff else n
  all.find? fun v => v.code = key

/-- Whether the verdict names another chain to go on with. -/
def hasTarget : Verdict → Bool
  | jump | goto => true
  | _ => false

end Verdict

/-- The protocol family of a table or a hook. -/
inductive Family where
  | inet | ipv4 | arp | netdev | bridge | ipv6
  deriving DecidableEq, Repr

namespace Family

def name : Family → String
  | inet => "inet"
  | ipv4 => "ip"
  | arp => "arp"
  | netdev => "netdev"
  | bridge => "bridge"
  | ipv6 => "ip6"

def code : Family → UInt8
  | inet => 1
  | ipv4 => 2
  | arp => 3
  | netdev => 5
  | bridge => 7
  | ipv6 => 10

def ofCode? (n : UInt8) : Option Family :=
  match n with
  | 1 => some inet
  | 2 => some ipv4
  | 3 => some arp
  | 5 => some netdev
  | 7 => some bridge
  | 10 => some ipv6
  | _ => none

end Family

/-- The transport protocols whose headers start with two ports. -/
def protocolTcp : UInt8 := 6

@[inherit_doc protocolTcp] def protocolUdp : UInt8 := 17

/-- The short name of an IP protocol number. -/
def protocolName? (n : UInt8) : Option String :=
  match n with
  | 1 => some "icmp"
  | 2 => some "igmp"
  | 4 => some "ipip"
  | 6 => some "tcp"
  | 17 => some "udp"
  | 41 => some "ipv6"
  | 47 => some "gre"
  | 50 => some "esp"
  | 51 => some "ah"
  | 58 => some "icmpv6"
  | 132 => some "sctp"
  | 136 => some "udplite"
  | _ => none

end RuleTrace
