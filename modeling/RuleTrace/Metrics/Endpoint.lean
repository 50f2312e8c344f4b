import RuleTrace.Metrics.Exposition
import RuleTrace.Metrics.Host

/-!
# `RuleTrace.Metrics.Endpoint`: where metrics are served

Metrics are served at an address of a host and a port. An address that
starts with its colon is meant for all interfaces. The server knows two
paths: one shows the metrics, the other says that the agent is alive.
-/

set_option autoImplicit false

namespace RuleTrace.Endpoint

/-- The address to listen at, with its host. -/
def listenAddress (address : String) : String :=
  if address.toList.head? = some ':' then "0.0.0.0" ++ address else address

/-- The texts before and after the last colon. -/
def splitLastColon (s : List Char) : Option (List Char × List Char) :=
  (Text.splitOnce ':' s.reverse).map fun (after, before) => (before.reverse, after.reverse)

/-- The port that a number names. -/
def port? (n : Nat) : Option UInt16 := if n < UInt16.size then some (UInt16.ofNat n) else none

/-- The host and the port of an address. A long host stands in
brackets; after another one the port may have a plus sign. -/
def target? (address : String) : Option (Address × UInt16) := do
  let (host, port) ← splitLastColon (listenAddress address).toList
  match host with
  | '[' :: inner =>
    if inner.getLast? = some ']' then
      return (.v6 (← Host.long? inner.dropLast), ← port? (← Text.nat? port))
    else none
  | _ => return (← Host.address? host, ← port? (← Text.word32? port))

/-- Whether every machine can listen at an address. -/
def isLocal (address : String) : Bool := (target? address).any fun (host, _) => Host.isShared host

/-- Why the server does not start. -/
def refusedMessage (address : String) : String := "listening on " ++ listenAddress address

/-- What a client asks for. -/
structure Request where
  method : String
  /-- path and query -/
  target : String
  deriving DecidableEq, Repr

/-- What a client gets. -/
structure Response where
  status : Nat
  body : String
  deriving DecidableEq, Repr

/-- The path of a target, without the query. -/
def pathOf (target : String) : String := String.ofList (target.toList.takeWhile (· != '?'))

/-- The body for a path that the server knows. -/
def page? (m : Metrics Float) (path : String) : Option String :=
  if path = "/metrics" then some (String.join (m.expose.map (· ++ "\n")))
  else if path = "/healthz" then some "ok"
  else none

/-- Answers a request. A request for the head alone gets no body. -/
def respond (m : Metrics Float) (r : Request) : Response :=
  match page? m (pathOf r.target) with
  | none => ⟨404, ""⟩
  | some body =>
    if r.method = "GET" then ⟨200, body⟩
    else if r.method = "HEAD" then ⟨200, ""⟩
    else ⟨405, ""⟩

end RuleTrace.Endpoint
