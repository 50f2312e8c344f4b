import RuleTrace.Correlation
import RuleTrace.Notification.Headers

/-!
# `RuleTrace.Notification.ToRecord`: a record from a notification

A fresh record stands for one notification. The chain gone to is kept
only for verdicts that go to one.
-/

set_option autoImplicit false

namespace RuleTrace

/-- A device as a record knows it. -/
def Device.interface (d : Device) : Interface := ⟨d.index, d.kind, .ofString 16 d.name⟩

/-- The chain that the verdict goes to, empty if it goes to none. -/
def Ruling.jumpTarget (v : Ruling) : FixedName 64 :=
  match Verdict.ofCode? v.code, v.target with
  | some verdict, some target => if verdict.hasTarget then .ofString 64 target else default
  | _, _ => default

namespace Notification

/-- The correlation id of the packet. -/
def id (n : Notification) : UInt32 :=
  Correlation.traceId n.packet.identity n.packet.flowHash n.packet.ingress

/-- The record of a notification that comes at time `now`. -/
def toRecord (n : Notification) (now : UInt64) : Record :=
  { (default : Record) with
    id := n.id
    count := 1
    time := now
    table := .ofString 64 n.chain.tableName
    tableHandle := n.chain.tableHandle
    chain := .ofString 64 n.chain.name
    chainHandle := n.chain.handle
    ruleHandle := n.ruleHandle
    jumpTarget := n.verdict.jumpTarget
    eventKind := n.eventKind
    policy := n.chain.policy
    verdict := n.verdict.code
    family := n.chain.family
    hookFamily := n.hook.family
    mark := n.packet.mark
    ingress := (n.hook.ingress.map Device.interface).getD default
    egress := (n.hook.egress.map Device.interface).getD default
  }.withHeaders (n.packet.headers n.hook.family)

end Notification

end RuleTrace
