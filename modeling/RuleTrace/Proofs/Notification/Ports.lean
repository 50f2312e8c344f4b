import RuleTrace.Proofs.Notification.Headers

/-!
# `RuleTrace.Proofs.Notification.Ports`: where the ports are read

A network header of the short address form declares its own length, in
words of four octets, and the ports are read at this distance from its
start. The fixed part of such a header has 20 octets, so a header that
declares less cannot be right. The check of the header does not notice:
it compares the end of the fixed part with the end of the buffer, and
never with the declared length.

`ports?_eq_some_iff` says when ports are found and which octets they
are. `ports_at_declared_length` draws the conclusion for all packets
with such a header: the ports come from behind its fixed part, and a
header that declares too little gives none, if and only if the header
declares 20 octets or more or the buffer is too short for what would
follow. `ports_out_of_header` is a packet of which neither is true. Its
ports are octets of the header itself, and the second of them is the
length of the packet.
-/

set_option autoImplicit false

namespace RuleTrace.Packet

variable {data : List UInt8} {offset : Nat}

/-- The length that a network header of the short address form declares,
in octets. -/
def declaredLength (data : List UInt8) (offset : Nat) : Nat :=
  4 * ((data.getD offset 0).toNat % 16)

/-- Whether a transport header with ports has room in the buffer. -/
def HasRoomFor (data : List UInt8) (offset : Nat) (protocol : UInt8) : Prop :=
  ∃ size, transportSize? protocol = some size ∧ offset + size ≤ data.length

/-! ### The two readers -/

/-- A word is found where both of its octets lie in the buffer. -/
theorem word?_isSome (h : offset + 2 ≤ data.length) : (word? data offset).isSome = true := by
  have hlength : ((data.drop offset).take 2).length = 2 := by
    simp only [List.length_take, List.length_drop]
    omega
  simp [word?, Octets.slice?, hlength]

/-- Either transport header is longer than the two ports at its start. -/
theorem four_le_transportSize {protocol : UInt8} {size : Nat}
    (h : transportSize? protocol = some size) : 4 ≤ size := by
  unfold transportSize? at h
  split at h
  · simp only [Option.some.injEq] at h
    omega
  · split at h
    · simp only [Option.some.injEq] at h
      omega
    · simp at h

/-- Ports are found where a transport header that has them has room, and
they are the first two words there. -/
theorem ports?_eq_some_iff (protocol : UInt8) (e : Endpoints UInt16) :
    ports? data offset protocol = some e ↔
      HasRoomFor data offset protocol ∧
        word? data offset = some e.source ∧ word? data (offset + 2) = some e.destination := by
  obtain ⟨source, destination⟩ := e
  unfold ports? HasRoomFor
  cases transportSize? protocol with
  | none => simp
  | some size =>
    by_cases hroom : offset + size ≤ data.length
    · simp [covers, hroom, Option.bind_eq_some_iff]
    · simp [covers, hroom]

/-- Ports are found if and only if there is room. -/
theorem ports?_isSome_iff (protocol : UInt8) :
    (ports? data offset protocol).isSome = true ↔ HasRoomFor data offset protocol := by
  constructor
  · intro h
    obtain ⟨e, he⟩ := Option.isSome_iff_exists.mp h
    exact ((ports?_eq_some_iff protocol e).mp he).1
  · intro h
    -- Room for the transport header is room for both words.
    have hfour : offset + 4 ≤ data.length := by
      obtain ⟨size, hsize, hroom⟩ := h
      have := four_le_transportSize hsize
      omega
    have hfirst : (word? data offset).isSome = true := word?_isSome (by omega)
    have hsecond : (word? data (offset + 2)).isSome = true := word?_isSome (by omega)
    obtain ⟨source, hsource⟩ := Option.isSome_iff_exists.mp hfirst
    obtain ⟨destination, hdestination⟩ := Option.isSome_iff_exists.mp hsecond
    rw [(ports?_eq_some_iff protocol ⟨source, destination⟩).mpr ⟨h, hsource, hdestination⟩]
    rfl

/-- The fixed part of a header of the short address form lies in the
buffer, and what follows is looked for at the declared length. -/
theorem payload_of_ipv4? {x : NetworkHeader} (h : ipv4? data offset = some x) :
    offset + 20 ≤ data.length ∧ x.payload = offset + declaredLength data offset := by
  unfold ipv4? at h
  split at h
  · rename_i hcovers
    have hroom : offset + 20 ≤ data.length := of_decide_eq_true hcovers
    refine ⟨hroom, ?_⟩
    obtain ⟨first, hfirst, h⟩ := Option.bind_eq_some_iff.mp h
    obtain ⟨length, -, h⟩ := Option.bind_eq_some_iff.mp h
    obtain ⟨protocol, -, h⟩ := Option.bind_eq_some_iff.mp h
    obtain ⟨source, -, h⟩ := Option.bind_eq_some_iff.mp h
    obtain ⟨destination, -, h⟩ := Option.bind_eq_some_iff.mp h
    cases h
    simp [declaredLength, List.getD_eq_getElem?_getD, hfirst]
  · simp at h

/-- Only the reader of the short address form finds its addresses. -/
theorem ipv4?_of_network? {hookFamily : UInt8} {x : NetworkHeader}
    {addresses : Endpoints (Octets 4)} (h : network? data offset hookFamily = some x)
    (haddresses : x.addresses = .v4 addresses) : ipv4? data offset = some x := by
  unfold network? at h
  split at h
  · exact h
  · -- The other reader finds addresses of the other form.
    unfold ipv6? at h
    split at h
    · obtain ⟨length, -, h⟩ := Option.bind_eq_some_iff.mp h
      obtain ⟨protocol, -, h⟩ := Option.bind_eq_some_iff.mp h
      obtain ⟨source, -, h⟩ := Option.bind_eq_some_iff.mp h
      obtain ⟨destination, -, h⟩ := Option.bind_eq_some_iff.mp h
      cases h
      simp at haddresses
    · simp at h
  · simp at h

/-! ### Ports behind a network header -/

/-- The ports are looked for where the network header says. -/
theorem ports_of_network {p : Packet} {hookFamily : UInt8} {x : NetworkHeader}
    (h : (p.headers hookFamily).network = some x) :
    network? p.data p.networkOffset.toNat hookFamily = some x ∧
      (p.headers hookFamily).ports = ports? p.data x.payload x.protocol := by
  -- Behind the link header, if there is one, everything depends on the network header.
  have hinner : ∀ link, (p.innerHeaders hookFamily link).network = some x →
      network? p.data p.networkOffset.toNat hookFamily = some x ∧
        (p.innerHeaders hookFamily link).ports = ports? p.data x.payload x.protocol := by
    intro link hlink
    unfold innerHeaders at hlink ⊢
    cases hnetwork : network? p.data p.networkOffset.toNat hookFamily with
    | none => simp [hnetwork] at hlink
    | some y =>
      simp only [hnetwork, Option.some.injEq] at hlink ⊢
      subst hlink
      exact ⟨rfl, rfl⟩
  unfold headers at h ⊢
  cases hoffset : p.linkOffset with
  | none =>
    simp only [hoffset] at h ⊢
    exact hinner none h
  | some offset =>
    simp only [hoffset] at h ⊢
    cases hlink : link? p.data offset.toNat with
    | none => simp [hlink] at h
    | some link =>
      simp only [hlink] at h ⊢
      exact hinner (some link) h

/-- Any packet at any hook, when its network header is read in the short
address form.

The ports are the two words that stand behind as many octets as the
header declares, counted from its start, and they are found exactly
where a transport header of the protocol has room there. To come from
behind the fixed part of the header, and not to be found at all where
the header declares less than this part, is true of the ports of a
packet if and only if such a header leaves no room for them. -/
theorem ports_at_declared_length (p : Packet) (hookFamily : UInt8) (x : NetworkHeader)
    (addresses : Endpoints (Octets 4)) (hnetwork : (p.headers hookFamily).network = some x)
    (haddresses : x.addresses = .v4 addresses) :
    let start := p.networkOffset.toNat
    let declared := declaredLength p.data start
    let place := start + declared
    let ports := (p.headers hookFamily).ports
    start + 20 ≤ p.data.length ∧
    (∀ e, ports = some e →
      word? p.data place = some e.source ∧ word? p.data (place + 2) = some e.destination) ∧
    (ports.isSome = true ↔ HasRoomFor p.data place x.protocol) ∧
    (((ports.isSome = true → start + 20 ≤ place) ∧ (declared < 20 → ports = none)) ↔
      (declared < 20 → ¬ HasRoomFor p.data place x.protocol)) := by
  intro start declared place ports
  obtain ⟨hread, hports⟩ := ports_of_network hnetwork
  obtain ⟨hfixed, hplace⟩ := payload_of_ipv4? (ipv4?_of_network? hread haddresses)
  have hports : ports = ports? p.data place x.protocol := by
    show (p.headers hookFamily).ports = _
    rw [hports, hplace]
  have hfound : ports.isSome = true ↔ HasRoomFor p.data place x.protocol := by
    rw [hports]
    exact ports?_isSome_iff x.protocol
  have hnone : ports = none ↔ ¬ HasRoomFor p.data place x.protocol := by
    rw [← hfound]
    simp
  refine ⟨hfixed, fun e he => ?_, hfound, ?_⟩
  · rw [hports] at he
    exact ((ports?_eq_some_iff x.protocol e).mp he).2
  · rw [hfound, hnone]
    constructor
    · intro hlaw
      exact hlaw.2
    · intro hlaw
      refine ⟨fun hroom => ?_, hlaw⟩
      -- Otherwise the two would contradict each other.
      have hdeclared : ¬ declared < 20 := fun hless => hlaw hless hroom
      omega

/-- A datagram behind a header with one word of options. -/
theorem ports_at_declared_length_options :
    let addresses : Endpoints (Octets 4) :=
      ⟨⟨[192, 168, 0, 1], rfl⟩, ⟨[192, 168, 0, 2], rfl⟩⟩
    let p : Packet := { (default : Packet) with
      data := [0x46, 0, 0, 36, 0, 0, 0x40, 0, 64, 17, 0, 0, 192, 168, 0, 1, 192, 168, 0, 2,
        0, 0, 0, 0, 0x14, 0xe9, 0, 53, 0, 8, 0, 0] }
    let x : NetworkHeader := ⟨.v4 addresses, 36, 17, 24⟩
    let declared := declaredLength p.data p.networkOffset.toNat
    (p.headers Family.ipv4.code).network = some x ∧ x.addresses = .v4 addresses ∧
    declared = 24 ∧ (p.headers Family.ipv4.code).ports = some ⟨5353, 53⟩ ∧
    HasRoomFor p.data (p.networkOffset.toNat + declared) x.protocol := by
  intro addresses p x declared
  have hnetwork : (p.headers Family.ipv4.code).network = some x := by decide
  have hports : (p.headers Family.ipv4.code).ports = some ⟨5353, 53⟩ := by decide
  obtain ⟨-, -, hfound, -⟩ := ports_at_declared_length p Family.ipv4.code x addresses hnetwork rfl
  refine ⟨hnetwork, rfl, by decide, hports, hfound.mp ?_⟩
  rw [hports]
  rfl

/-- A datagram whose header declares no length at all. Behind the header
stand the ports 5353 and 53. What is found are the first two words of the
header, and the second of them is the length of the packet. -/
theorem ports_out_of_header :
    let p : Packet := { (default : Packet) with
      data := [0x40, 0, 0, 28, 0, 0, 0x40, 0, 64, 17, 0, 0, 10, 0, 0, 1, 10, 0, 0, 2,
        0x14, 0xe9, 0, 53, 0, 8, 0, 0] }
    let start := p.networkOffset.toNat
    let h := p.headers Family.ipv4.code
    let r := (default : Record).withHeaders h
    h.network.map NetworkHeader.addresses
      = some (.v4 ⟨⟨[10, 0, 0, 1], rfl⟩, ⟨[10, 0, 0, 2], rfl⟩⟩) ∧
    declaredLength p.data start < 20 ∧
    h.ports.map Endpoints.source = word? p.data start ∧
    h.ports.map Endpoints.destination = word? p.data (start + 2) ∧
    r.ports = ⟨0x4000, 28⟩ ∧ r.length = 28 := by
  decide

end RuleTrace.Packet
