import RuleTrace.Notification.Basic
import RuleTrace.Record.Basic

/-!
# `RuleTrace.Notification.Headers`: headers in a packet's buffer

A packet's buffer may end anywhere, so each header is read only when
all of its fixed part lies within the buffer, and reading stops at the
first header that does not. What was read up to there is kept: a
partly filled record is still worth having.

* The link header (14 octets) is read when the packet has one.
* The network header is that of the hook's family if the hook is
  bound to one protocol version; otherwise the version in the first
  half-octet of the header decides.
* The transport header is read for the two protocols with ports. For
  the short address form it starts where the header's own length
  field says, and that length is taken as it stands; for the long form
  it starts right after the fixed header.

`Packet.headers` gives the three layers; `Record.withHeaders` puts
them into a record.
-/

set_option autoImplicit false

namespace RuleTrace

/-- The addresses in a network header, by protocol version. -/
inductive NetworkAddresses where
  | v4 (addresses : Endpoints (Octets 4))
  | v6 (addresses : Endpoints (Octets 16))
  deriving DecidableEq, Repr

/-- What is kept of a network header. -/
structure NetworkHeader where
  addresses : NetworkAddresses
  length : UInt16
  protocol : UInt8
  /-- offset of the transport header -/
  payload : Nat
  deriving DecidableEq, Repr

/-- The headers found in a packet, from the outermost in. -/
structure Headers where
  link : Option (Endpoints Mac)
  network : Option NetworkHeader
  ports : Option (Endpoints UInt16)
  deriving DecidableEq, Repr

namespace Packet

/-- Whether `size` octets can be read at `offset`. -/
def covers (data : List UInt8) (offset size : Nat) : Bool := offset + size ≤ data.length

/-- The big-endian word at an offset. -/
def word? (data : List UInt8) (offset : Nat) : Option UInt16 :=
  (Octets.slice? data offset 2).map Octets.toWord

/-- The link addresses: destination first, then source. -/
def link? (data : List UInt8) (offset : Nat) : Option (Endpoints Mac) :=
  if covers data offset 14 then do
    let destination ← Octets.slice? data offset 6
    let source ← Octets.slice? data (offset + 6) 6
    some ⟨source, destination⟩
  else none

/-- The network header of the short address form. -/
def ipv4? (data : List UInt8) (offset : Nat) : Option NetworkHeader :=
  if covers data offset 20 then do
    let first ← data[offset]?
    let length ← word? data (offset + 2)
    let protocol ← data[offset + 9]?
    let source ← Octets.slice? data (offset + 12) 4
    let destination ← Octets.slice? data (offset + 16) 4
    some ⟨.v4 ⟨source, destination⟩, length, protocol, offset + 4 * (first.toNat % 16)⟩
  else none

/-- The network header of the long address form. -/
def ipv6? (data : List UInt8) (offset : Nat) : Option NetworkHeader :=
  if covers data offset 40 then do
    let length ← word? data (offset + 4)
    let protocol ← data[offset + 6]?
    let source ← Octets.slice? data (offset + 8) 16
    let destination ← Octets.slice? data (offset + 24) 16
    some ⟨.v6 ⟨source, destination⟩, length, protocol, offset + 40⟩
  else none

/-- The protocol version told by the header itself. -/
def versionFamily? (data : List UInt8) (offset : Nat) : Option Family := do
  let first ← data[offset]?
  match first.toNat / 16 with
  | 4 => some .ipv4
  | 6 => some .ipv6
  | _ => none

/-- The protocol version by which the network header is read. -/
def networkFamily? (data : List UInt8) (offset : Nat) (hookFamily : UInt8) : Option Family :=
  match Family.ofCode? hookFamily with
  | some .ipv4 => some .ipv4
  | some .ipv6 => some .ipv6
  | _ => versionFamily? data offset

/-- The network header. -/
def network? (data : List UInt8) (offset : Nat) (hookFamily : UInt8) : Option NetworkHeader :=
  match networkFamily? data offset hookFamily with
  | some .ipv4 => ipv4? data offset
  | some .ipv6 => ipv6? data offset
  | _ => none

/-- The least size of a transport header with ports. -/
def transportSize? (protocol : UInt8) : Option Nat :=
  if protocol = protocolTcp then some 20
  else if protocol = protocolUdp then some 8
  else none

/-- The ports, for protocols that have them. -/
def ports? (data : List UInt8) (offset : Nat) (protocol : UInt8) : Option (Endpoints UInt16) := do
  let size ← transportSize? protocol
  if covers data offset size then
    let source ← word? data offset
    let destination ← word? data (offset + 2)
    some ⟨source, destination⟩
  else none

/-- The network and transport headers. -/
def innerHeaders (p : Packet) (hookFamily : UInt8) (link : Option (Endpoints Mac)) : Headers :=
  match network? p.data p.networkOffset.toNat hookFamily with
  | none => ⟨link, none, none⟩
  | some header => ⟨link, some header, ports? p.data header.payload header.protocol⟩

/-- The headers of a packet seen at a hook of the given family. -/
def headers (p : Packet) (hookFamily : UInt8) : Headers :=
  match p.linkOffset with
  | none => p.innerHeaders hookFamily none
  | some offset =>
    match link? p.data offset.toNat with
    | none => ⟨none, none, none⟩
    | some link => p.innerHeaders hookFamily (some link)

end Packet

namespace Record

/-- The record with the fields of a network header. -/
def withNetwork (r : Record) (h : NetworkHeader) : Record :=
  let r := { r with length := h.length, protocol := h.protocol }
  match h.addresses with
  | .v4 addresses => { r with ipv4 := addresses }
  | .v6 addresses => { r with ipv6 := addresses }

/-- The record with the fields of all headers found; the others keep
what they hold. -/
def withHeaders (r : Record) (h : Headers) : Record :=
  let r := match h.link with
    | some link => { r with link }
    | none => r
  let r := match h.network with
    | some network => r.withNetwork network
    | none => r
  match h.ports with
  | some ports => { r with ports }
  | none => r

end Record

end RuleTrace
