import RuleTrace.Proofs.Notification.Headers

/-!
# `RuleTrace.Proofs.Notification.Encoding`: headers written and read back

A frame is what a sender puts together: a link header or none, a network
header of one of the two forms, and what it carries. `encode` writes
each part octet by octet, the way the standards draw it.

`Packet.Carries` says that the parts of a frame stand in the buffer of a
packet where its offsets point. It says nothing of the other octets: any
may stand before, between and behind, and the parts may even overlap.
`withHeaders_of_carries` is the law: reading the headers gives back what
was written, whatever it is.

A part is read by its pieces, so `stands_append` is the lemma that does
the work. It takes an encoding apart into its pieces, each with its
offset, and each reader of `RuleTrace.Notification.Headers` then finds
its own.
-/

set_option autoImplicit false

namespace RuleTrace

namespace Octets

/-- A word is read from the two octets that it is written in. -/
theorem toWord_ofWord (w : UInt16) : (ofWord w).toWord = w := by
  have hw := w.toNat_lt
  have hnumber : (ofWord w).toNat = w.toNat := by
    show 256 * (256 * 0 + (UInt8.ofNat (w.toNat / 256)).toNat)
      + (UInt8.ofNat (w.toNat % 256)).toNat = w.toNat
    rw [UInt8.toNat_ofNat', UInt8.toNat_ofNat']
    omega
  rw [toWord, hnumber, UInt16.ofNat_toNat]

end Octets

namespace Packet

/-! ### Octets that stand in a buffer -/

variable {data : List UInt8} {offset : Nat}

/-- The octets stand in the buffer from the offset on. -/
def Stands (data : List UInt8) (offset : Nat) (bs : List UInt8) : Prop := bs <+: data.drop offset

/-- What stands in the buffer stands there piece by piece. -/
theorem stands_append {xs ys : List UInt8} :
    Stands data offset (xs ++ ys) ↔
      Stands data offset xs ∧ Stands data (offset + xs.length) ys := by
  constructor
  · rintro ⟨rest, h⟩
    rw [List.append_assoc] at h
    refine ⟨⟨ys ++ rest, h⟩, rest, ?_⟩
    rw [← List.drop_drop, ← h, List.drop_left]
  · rintro ⟨⟨rest, h⟩, others, h'⟩
    rw [← List.drop_drop, ← h, List.drop_left] at h'
    exact ⟨others, by rw [List.append_assoc, h', h]⟩

/-- An octet that stands there is read. -/
theorem getElem?_of_stands {b : UInt8} (h : Stands data offset [b]) : data[offset]? = some b := by
  obtain ⟨rest, h⟩ := h
  rw [← List.head?_drop, ← h]
  rfl

/-- Octets that stand there are read as one part. -/
theorem slice?_of_stands {n : Nat} {o : Octets n} (h : Stands data offset o.bytes) :
    Octets.slice? data offset n = some o := by
  have hpart : (data.drop offset).take n = o.bytes := by
    obtain ⟨rest, h⟩ := h
    rw [← h]
    exact List.take_left' o.length_bytes
  rw [Octets.slice?, dif_pos (by rw [hpart, o.length_bytes])]
  exact congrArg some (Octets.ext hpart)

/-- A word that stands there is read. -/
theorem word?_of_stands {w : UInt16} (h : Stands data offset (Octets.ofWord w).bytes) :
    word? data offset = some w := by
  rw [word?, slice?_of_stands h, Option.map_some, Octets.toWord_ofWord]

/-- What stands in a buffer lies within it. -/
theorem covers_of_stands {bs : List UInt8} {size : Nat} (h : Stands data offset bs)
    (hpos : 0 < size) (hsize : size ≤ bs.length) : covers data offset size = true := by
  have hlength := h.length_le
  rw [List.length_drop] at hlength
  rw [covers, decide_eq_true_iff]
  omega

end Packet

/-! ### Frames -/

namespace Frame

/-- A link header. -/
structure Link where
  addresses : Endpoints Mac
  /-- what kind of header follows -/
  kind : UInt16

def Link.encode (h : Link) : List UInt8 :=
  h.addresses.destination.bytes ++ h.addresses.source.bytes ++ (Octets.ofWord h.kind).bytes

/-- An octet of two halves. -/
def halves (high low : Nat) : UInt8 := UInt8.ofNat (16 * high + low)

/-- A network header with short addresses. -/
structure Ipv4 where
  version : Fin 16
  /-- the length of the header in words of four octets -/
  words : Nat
  service : UInt8
  length : UInt16
  /-- identification, place of the fragment, time to live -/
  marks : Octets 5
  checksum : Octets 2
  addresses : Endpoints (Octets 4)
  options : List UInt8
  length_options : 20 + options.length = 4 * words
  words_le : words ≤ 15

/-- The header of a packet that carries the given protocol. -/
def Ipv4.encode (h : Ipv4) (protocol : UInt8) : List UInt8 :=
  [halves h.version h.words] ++ [h.service] ++ (Octets.ofWord h.length).bytes ++ h.marks.bytes
    ++ [protocol] ++ h.checksum.bytes ++ h.addresses.source.bytes
    ++ h.addresses.destination.bytes ++ h.options

/-- A network header with long addresses. -/
structure Ipv6 where
  version : Fin 16
  /-- the first half-octet of the traffic class -/
  traffic : Fin 16
  /-- the rest of it, and the flow label -/
  flow : Octets 3
  length : UInt16
  hopLimit : UInt8
  addresses : Endpoints (Octets 16)

@[inherit_doc Ipv4.encode] def Ipv6.encode (h : Ipv6) (protocol : UInt8) : List UInt8 :=
  [halves h.version h.traffic] ++ h.flow.bytes ++ (Octets.ofWord h.length).bytes ++ [protocol]
    ++ [h.hopLimit] ++ h.addresses.source.bytes ++ h.addresses.destination.bytes

/-- A network header. -/
inductive Network where
  | v4 (h : Ipv4)
  | v6 (h : Ipv6)

namespace Network

def encode (protocol : UInt8) : Network → List UInt8
  | v4 h => h.encode protocol
  | v6 h => h.encode protocol

def length : Network → UInt16
  | v4 h => h.length
  | v6 h => h.length

def addresses : Network → NetworkAddresses
  | v4 h => .v4 h.addresses
  | v6 h => .v6 h.addresses

def ipv4? : Network → Option (Endpoints (Octets 4))
  | v4 h => some h.addresses
  | v6 _ => none

def ipv6? : Network → Option (Endpoints (Octets 16))
  | v4 _ => none
  | v6 h => some h.addresses

def family : Network → Family
  | v4 _ => .ipv4
  | v6 _ => .ipv6

/-- Whether the header itself tells its form rightly. -/
def TellsVersion : Network → Prop
  | v4 h => h.version = 4
  | v6 h => h.version = 6

/-- Whether a hook knows how to read the header: it is bound to the
header's form, or it is bound to none and the header tells. -/
def KnownTo (n : Network) (hookFamily : UInt8) : Prop :=
  hookFamily = n.family.code ∨
    (hookFamily ≠ Family.ipv4.code ∧ hookFamily ≠ Family.ipv6.code ∧ n.TellsVersion)

end Network

/-- What a network header carries: a transport header of one of the two
protocols with ports, with at least its fixed part, or octets of another
protocol. -/
inductive Transport where
  | tcp (ports : Endpoints UInt16) (rest : List UInt8) (size : 20 ≤ 4 + rest.length)
  | udp (ports : Endpoints UInt16) (rest : List UInt8) (size : 8 ≤ 4 + rest.length)
  | other (protocol : UInt8) (octets : List UInt8) (notTcp : protocol ≠ protocolTcp)
    (notUdp : protocol ≠ protocolUdp)

namespace Transport

def protocol : Transport → UInt8
  | tcp .. => protocolTcp
  | udp .. => protocolUdp
  | other protocol .. => protocol

def ports? : Transport → Option (Endpoints UInt16)
  | tcp ports .. => some ports
  | udp ports .. => some ports
  | other .. => none

/-- Both ports, and what follows them. -/
def encodePorts (ports : Endpoints UInt16) (rest : List UInt8) : List UInt8 :=
  (Octets.ofWord ports.source).bytes ++ (Octets.ofWord ports.destination).bytes ++ rest

def encode : Transport → List UInt8
  | tcp ports rest _ => encodePorts ports rest
  | udp ports rest _ => encodePorts ports rest
  | other _ octets .. => octets

end Transport

end Frame

/-- What a sender puts together. -/
structure Frame where
  link : Option Frame.Link
  network : Frame.Network
  transport : Frame.Transport

/-- The parts of a frame stand where the offsets of a packet point. -/
structure Packet.Carries (p : Packet) (f : Frame) : Prop where
  link : Option.Rel (fun (offset : UInt16) h => Stands p.data offset.toNat h.encode)
    p.linkOffset f.link
  network : Stands p.data p.networkOffset.toNat
    (f.network.encode f.transport.protocol ++ f.transport.encode)

/-! ### Each header is read back -/

namespace Packet

variable {data : List UInt8} {offset : Nat}

/-- A link header is read as it was written. -/
theorem link?_of_stands {h : Frame.Link} (hstands : Stands data offset h.encode) :
    link? data offset = some h.addresses := by
  have hcovers : covers data offset 14 = true := by
    refine covers_of_stands hstands (by decide) ?_
    simp [Frame.Link.encode, Octets.length_bytes]
  simp only [Frame.Link.encode, stands_append, Octets.length_bytes] at hstands
  obtain ⟨⟨hdestination, hsource⟩, -⟩ := hstands
  rw [link?, if_pos hcovers, slice?_of_stands hdestination, slice?_of_stands hsource]
  rfl

/-- A network header with short addresses is read as it was written, and
what it carries is found behind its options. -/
theorem ipv4?_of_stands {h : Frame.Ipv4} {protocol : UInt8}
    (hstands : Stands data offset (h.encode protocol)) :
    ipv4? data offset
      = some ⟨.v4 h.addresses, h.length, protocol, offset + (h.encode protocol).length⟩ := by
  have hlength : (h.encode protocol).length = 4 * h.words := by
    have := h.length_options
    simp only [Frame.Ipv4.encode, List.length_append, Octets.length_bytes, List.length_singleton]
    omega
  have hcovers : covers data offset 20 = true := by
    refine covers_of_stands hstands (by decide) ?_
    have := h.length_options
    omega
  -- The lower half of the first octet is the length in words, which fits there.
  have hwords : (Frame.halves h.version h.words).toNat % 16 = h.words := by
    have := h.words_le
    have := h.version.isLt
    rw [Frame.halves, UInt8.toNat_ofNat']
    omega
  rw [hlength]
  simp only [Frame.Ipv4.encode, stands_append, List.length_append, Octets.length_bytes,
    List.length_singleton, Nat.reduceAdd] at hstands
  obtain ⟨⟨⟨⟨⟨⟨⟨⟨hfirst, -⟩, hword⟩, -⟩, hprotocol⟩, -⟩, hsource⟩, hdestination⟩, -⟩ := hstands
  rw [ipv4?, if_pos hcovers, getElem?_of_stands hfirst, word?_of_stands hword,
    getElem?_of_stands hprotocol, slice?_of_stands hsource, slice?_of_stands hdestination]
  simp only [Option.bind_eq_bind, Option.bind_some, hwords]

/-- A network header with long addresses is read as it was written. -/
theorem ipv6?_of_stands {h : Frame.Ipv6} {protocol : UInt8}
    (hstands : Stands data offset (h.encode protocol)) :
    ipv6? data offset
      = some ⟨.v6 h.addresses, h.length, protocol, offset + (h.encode protocol).length⟩ := by
  have hlength : (h.encode protocol).length = 40 := by
    simp [Frame.Ipv6.encode, Octets.length_bytes]
  have hcovers : covers data offset 40 = true :=
    covers_of_stands hstands (by decide) (Nat.le_of_eq hlength.symm)
  rw [hlength]
  simp only [Frame.Ipv6.encode, stands_append, List.length_append, Octets.length_bytes,
    List.length_singleton, Nat.reduceAdd] at hstands
  obtain ⟨⟨⟨⟨⟨-, hword⟩, hprotocol⟩, -⟩, hsource⟩, hdestination⟩ := hstands
  rw [ipv6?, if_pos hcovers, word?_of_stands hword, getElem?_of_stands hprotocol,
    slice?_of_stands hsource, slice?_of_stands hdestination]
  rfl

/-- The version that a network header tells. -/
theorem versionFamily?_of_stands {bs : List UInt8} {version low : Nat} (hversion : version < 16)
    (hlow : low < 16) (hstands : Stands data offset ([Frame.halves version low] ++ bs)) :
    versionFamily? data offset = Family.ofVersion? version := by
  -- The version is the upper half of the first octet.
  have hhigh : (Frame.halves version low).toNat / 16 = version := by
    rw [Frame.halves, UInt8.toNat_ofNat']
    omega
  rw [versionFamily?_eq, getElem?_of_stands (stands_append.mp hstands).1, Option.bind_some, hhigh]

/-- A hook that knows how to read a header reads it in its form. -/
theorem networkFamily?_of_stands {n : Frame.Network} {protocol hookFamily : UInt8}
    (hknown : n.KnownTo hookFamily) (hstands : Stands data offset (n.encode protocol)) :
    networkFamily? data offset hookFamily = some n.family := by
  rw [networkFamily?_eq]
  rcases hknown with rfl | ⟨hipv4, hipv6, htells⟩
  · cases n <;> rfl
  · rw [if_neg hipv4, if_neg hipv6]
    -- The hook is bound to neither form, so the header decides.
    cases n with
    | v4 h =>
      simp only [Frame.Network.encode, Frame.Ipv4.encode, List.append_assoc] at hstands
      rw [versionFamily?_of_stands h.version.isLt (Nat.lt_succ_of_le h.words_le) hstands,
        show h.version = 4 from htells]
      rfl
    | v6 h =>
      simp only [Frame.Network.encode, Frame.Ipv6.encode, List.append_assoc] at hstands
      rw [versionFamily?_of_stands h.version.isLt h.traffic.isLt hstands,
        show h.version = 6 from htells]
      rfl

/-- A network header is read in the form it has. -/
theorem network?_of_stands {n : Frame.Network} {protocol hookFamily : UInt8}
    (hknown : n.KnownTo hookFamily) (hstands : Stands data offset (n.encode protocol)) :
    network? data offset hookFamily
      = some ⟨n.addresses, n.length, protocol, offset + (n.encode protocol).length⟩ := by
  rw [network?, networkFamily?_of_stands hknown hstands]
  cases n with
  | v4 h => exact ipv4?_of_stands hstands
  | v6 h => exact ipv6?_of_stands hstands

/-- Ports are read where a transport header is long enough. -/
theorem ports?_of_encodePorts {ports : Endpoints UInt16} {rest : List UInt8} {protocol : UInt8}
    {size : Nat} (hsize : transportSize? protocol = some size) (hpos : 0 < size)
    (hrest : size ≤ 4 + rest.length)
    (hstands : Stands data offset (Frame.Transport.encodePorts ports rest)) :
    ports? data offset protocol = some ports := by
  -- The ports are read only where all of the transport header has room.
  have hcovers : covers data offset size = true := by
    refine covers_of_stands hstands hpos ?_
    simpa only [Frame.Transport.encodePorts, List.length_append, Octets.length_bytes,
      Nat.reduceAdd] using hrest
  simp only [Frame.Transport.encodePorts, stands_append, Octets.length_bytes] at hstands
  obtain ⟨⟨hsource, hdestination⟩, -⟩ := hstands
  simp only [ports?, hsize, Option.bind_eq_bind, Option.bind_some, if_pos hcovers,
    word?_of_stands hsource, word?_of_stands hdestination]

/-- The ports are those of the transport header, if it has any. -/
theorem ports?_of_stands {t : Frame.Transport} (hstands : Stands data offset t.encode) :
    ports? data offset t.protocol = t.ports? := by
  cases t with
  | tcp ports rest size => exact ports?_of_encodePorts rfl (by decide) size hstands
  | udp ports rest size => exact ports?_of_encodePorts rfl (by decide) size hstands
  | other protocol octets notTcp notUdp =>
    have hnone : transportSize? protocol = none := by
      rw [transportSize?, if_neg notTcp, if_neg notUdp]
    rw [Frame.Transport.protocol, ports?, hnone]
    rfl

/-- The headers of a packet that carries a frame are those of the
frame. -/
theorem headers_of_carries {p : Packet} {f : Frame} (h : p.Carries f) {hookFamily : UInt8}
    (hknown : f.network.KnownTo hookFamily) :
    p.headers hookFamily = ⟨f.link.map Frame.Link.addresses,
      some ⟨f.network.addresses, f.network.length, f.transport.protocol,
        p.networkOffset.toNat + (f.network.encode f.transport.protocol).length⟩,
      f.transport.ports?⟩ := by
  -- What the network header carries stands right behind it.
  obtain ⟨hnetwork, htransport⟩ := stands_append.mp h.network
  -- The network header has an offset of its own, so any link header will do.
  have hinner : ∀ link, p.innerHeaders hookFamily link = ⟨link,
      some ⟨f.network.addresses, f.network.length, f.transport.protocol,
        p.networkOffset.toNat + (f.network.encode f.transport.protocol).length⟩,
      f.transport.ports?⟩ := by
    intro link
    rw [innerHeaders, network?_of_stands hknown hnetwork]
    dsimp only
    rw [ports?_of_stands htransport]
  have hlink := h.link
  rw [headers]
  cases hoffset : p.linkOffset with
  | none =>
    rw [hoffset] at hlink
    cases hf : f.link with
    | none => exact hinner none
    | some link =>
      rw [hf] at hlink
      cases hlink
  | some offset =>
    rw [hoffset] at hlink
    cases hf : f.link with
    | none =>
      rw [hf] at hlink
      cases hlink
    | some link =>
      rw [hf] at hlink
      cases hlink with
      | some hstands =>
        dsimp only
        rw [link?_of_stands hstands]
        exact hinner (some link.addresses)

end Packet

/-- Any frame, in any packet that carries it, whatever stands around its
parts and wherever they stand, and any hook that knows how to read its
network header.

Reading the headers into a record gives the link addresses where the
packet has a link header, the addresses in their form, the length, the
protocol and, for the two protocols with ports, the ports that were
written. All else in the record is as it was. The hook does not matter
beyond that. -/
theorem Record.withHeaders_of_carries (f : Frame) (p : Packet) (hcarries : p.Carries f)
    (hookFamily : UInt8) (hknown : f.network.KnownTo hookFamily) (r : Record) :
    r.withHeaders (p.headers hookFamily) = { r with
      link := (f.link.map Frame.Link.addresses).getD r.link
      length := f.network.length
      protocol := f.transport.protocol
      ipv4 := f.network.ipv4?.getD r.ipv4
      ipv6 := f.network.ipv6?.getD r.ipv6
      ports := f.transport.ports?.getD r.ports } := by
  rw [Packet.headers_of_carries hcarries hknown, Record.withHeaders_eq]
  cases f.link <;> cases f.network <;> cases f.transport <;> rfl

/-- A header with options, behind a link header that starts at an odd
place, with octets of no meaning in between, at a hook that is bound to
no form. -/
theorem Record.withHeaders_of_carries_odd_places :
    let link : Frame.Link :=
      ⟨⟨⟨[2, 0, 0, 0, 0, 1], rfl⟩, ⟨[2, 0, 0, 0, 0, 2], rfl⟩⟩, 0x0800⟩
    let network : Frame.Ipv4 := {
      version := 4, words := 6, service := 0, length := 60
      marks := ⟨[0, 0, 0x40, 0, 64], rfl⟩
      checksum := ⟨[0, 0], rfl⟩
      addresses := ⟨⟨[10, 0, 0, 1], rfl⟩, ⟨[10, 0, 0, 2], rfl⟩⟩
      options := [1, 1, 1, 0]
      length_options := rfl
      words_le := by decide }
    let f : Frame := ⟨some link, .v4 network, .udp ⟨5353, 53⟩ [0, 8, 0, 0] (by decide)⟩
    let p : Packet := { (default : Packet) with
      data := [9, 9, 9] ++ link.encode ++ [9] ++ network.encode 17 ++ f.transport.encode ++ [9, 9]
      linkOffset := some 3
      networkOffset := 18 }
    p.Carries f ∧ f.network.KnownTo Family.inet.code ∧
    ((default : Record).withHeaders (p.headers Family.inet.code)).ports = ⟨5353, 53⟩ ∧
    ((default : Record).withHeaders (p.headers Family.inet.code)).link = link.addresses := by
  intro link network f p
  have hcarries : p.Carries f := ⟨.some ⟨_, rfl⟩, [9, 9], rfl⟩
  have hknown : f.network.KnownTo Family.inet.code := .inr ⟨by decide, by decide, rfl⟩
  have hread := Record.withHeaders_of_carries f p hcarries Family.inet.code hknown default
  exact ⟨hcarries, hknown, congrArg Record.ports hread, congrArg Record.link hread⟩

end RuleTrace
