import RuleTrace.Proofs.Notification.Headers

/-!
# `RuleTrace.Proofs.Notification.Truncation`: buffers that end too early

Each header of a packet is checked against the end of the buffer before
it is read, and inside it every octet is checked again. A `Buffer` reads
with the first kind of check only. It knows its `size`, but it reads a
`memory` that goes on behind it, and nothing but the checks of whole
headers keeps it from doing so.

`headers_eq_buffer` says that it finds the same headers, whatever lies
behind the buffer. So the check of a header covers every read in it, and
no read goes past the end.

It also says what happens to a packet that is cut off. What was cut off
is as good as anything to lie behind the buffer, so a cut changes the
size of the buffer and leaves the memory alone. With a smaller size more
checks fail, and a header whose check does not fail is the same header
(`link?_cut`, `network?_cut`, `ports?_cut`).
-/

set_option autoImplicit false

namespace RuleTrace

/-- A buffer and the memory in which it lies. -/
structure Buffer where
  /-- the octets of the buffer, and what lies behind them -/
  memory : List UInt8
  /-- the number of octets that belong to the buffer -/
  size : Nat

namespace Buffer

/-- The octets from an offset on, in the buffer or not. Where `memory`
says no more there are zeros. -/
def octets (b : Buffer) (offset n : Nat) : Octets n := .padded n (b.memory.drop offset)

@[inherit_doc octets] def octet (b : Buffer) (offset : Nat) : UInt8 := b.memory.getD offset 0

@[inherit_doc octets] def word (b : Buffer) (offset : Nat) : UInt16 :=
  (b.octets offset 2).toWord

/-- Whether a header lies within the buffer. -/
def holds (b : Buffer) (offset n : Nat) : Bool := offset + n ≤ b.size

/-- The link addresses. -/
def link? (b : Buffer) (offset : Nat) : Option (Endpoints Mac) :=
  if b.holds offset 14 then some ⟨b.octets (offset + 6) 6, b.octets offset 6⟩ else none

/-- The network header of the short address form. -/
def ipv4? (b : Buffer) (offset : Nat) : Option NetworkHeader :=
  if b.holds offset 20 then
    some ⟨.v4 ⟨b.octets (offset + 12) 4, b.octets (offset + 16) 4⟩, b.word (offset + 2),
      b.octet (offset + 9), offset + 4 * ((b.octet offset).toNat % 16)⟩
  else none

/-- The network header of the long address form. -/
def ipv6? (b : Buffer) (offset : Nat) : Option NetworkHeader :=
  if b.holds offset 40 then
    some ⟨.v6 ⟨b.octets (offset + 8) 16, b.octets (offset + 24) 16⟩, b.word (offset + 4),
      b.octet (offset + 6), offset + 40⟩
  else none

/-- The protocol version by which the network header is read. -/
def networkFamily? (b : Buffer) (offset : Nat) (hookFamily : UInt8) : Option Family :=
  if hookFamily = Family.ipv4.code then some .ipv4
  else if hookFamily = Family.ipv6.code then some .ipv6
  else if b.holds offset 1 then Family.ofVersion? ((b.octet offset).toNat / 16)
  else none

/-- The network header of a version. -/
def networkOf (b : Buffer) (offset : Nat) : Family → Option NetworkHeader
  | .ipv4 => b.ipv4? offset
  | .ipv6 => b.ipv6? offset
  | _ => none

/-- The network header. -/
def network? (b : Buffer) (offset : Nat) (hookFamily : UInt8) : Option NetworkHeader :=
  (b.networkFamily? offset hookFamily).bind (b.networkOf offset)

/-- The ports, for protocols that have them. -/
def ports? (b : Buffer) (offset : Nat) (protocol : UInt8) : Option (Endpoints UInt16) :=
  (Packet.transportSize? protocol).bind fun size =>
    if b.holds offset size then some ⟨b.word offset, b.word (offset + 2)⟩ else none

/-- The network and transport headers. -/
def innerHeaders (b : Buffer) (networkOffset : UInt16) (hookFamily : UInt8)
    (link : Option (Endpoints Mac)) : Headers :=
  let network := b.network? networkOffset.toNat hookFamily
  ⟨link, network, network.bind fun h => b.ports? h.payload h.protocol⟩

/-- The headers found at the given offsets. -/
def headers (b : Buffer) (linkOffset : Option UInt16) (networkOffset : UInt16)
    (hookFamily : UInt8) : Headers :=
  linkOffset.elim (b.innerHeaders networkOffset hookFamily none) fun offset =>
    (b.link? offset.toNat).elim ⟨none, none, none⟩ fun link =>
      b.innerHeaders networkOffset hookFamily (some link)

end Buffer

/-! ### Checked reads and reads in a buffer -/

namespace Packet

variable (data beyond : List UInt8) {offset n : Nat}

/-- A buffer and what lies behind it. -/
def buffer : Buffer := ⟨data ++ beyond, data.length⟩

/-- The check of a header looks at the size alone. -/
theorem covers_eq_holds (offset n : Nat) :
    covers data offset n = (buffer data beyond).holds offset n := rfl

/-- Within the buffer a checked read answers what stands in memory. -/
theorem slice?_eq_octets (h : offset + n ≤ data.length) :
    Octets.slice? data offset n = some ((buffer data beyond).octets offset n) := by
  have hlength : ((data.drop offset).take n).length = n := by
    rw [List.length_take, List.length_drop]
    omega
  have hpart : (data.drop offset).take n = ((buffer data beyond).octets offset n).bytes := by
    -- The octets are all in `data`: neither `beyond` nor the padding is reached.
    show _ = ((data ++ beyond).drop offset ++ List.replicate n 0).take n
    rw [List.drop_append_of_le_length (by omega), List.append_assoc,
      List.take_append_of_le_length (by rw [List.length_drop]; omega)]
  rw [Octets.slice?, dif_pos hlength]
  exact congrArg some (Octets.ext hpart)

/-- Within the buffer a checked word is what stands in memory. -/
theorem word?_eq_word (h : offset + 2 ≤ data.length) :
    word? data offset = some ((buffer data beyond).word offset) := by
  rw [word?, slice?_eq_octets data beyond h]
  rfl

/-- Within the buffer a checked octet is what stands in memory. -/
theorem getElem?_eq_octet (h : offset < data.length) :
    data[offset]? = some ((buffer data beyond).octet offset) := by
  rw [Buffer.octet, buffer, List.getD_eq_getElem?_getD, List.getElem?_append_left h,
    List.getElem?_eq_getElem h]
  rfl

/-- The link addresses are found without further checks. -/
theorem link?_eq_buffer (offset : Nat) :
    link? data offset = (buffer data beyond).link? offset := by
  rw [link?, Buffer.link?, covers_eq_holds data beyond]
  split
  · rename_i h
    have h : offset + 14 ≤ data.length := of_decide_eq_true h
    rw [slice?_eq_octets data beyond (by omega), slice?_eq_octets data beyond (by omega)]
    rfl
  · rfl

/-- A network header with short addresses is found without further checks. -/
theorem ipv4?_eq_buffer (offset : Nat) :
    ipv4? data offset = (buffer data beyond).ipv4? offset := by
  rw [ipv4?, Buffer.ipv4?, covers_eq_holds data beyond]
  split
  · rename_i h
    have h : offset + 20 ≤ data.length := of_decide_eq_true h
    rw [getElem?_eq_octet data beyond (by omega), word?_eq_word data beyond (by omega),
      getElem?_eq_octet data beyond (by omega), slice?_eq_octets data beyond (by omega),
      slice?_eq_octets data beyond (by omega)]
    rfl
  · rfl

/-- A network header with long addresses is found without further checks. -/
theorem ipv6?_eq_buffer (offset : Nat) :
    ipv6? data offset = (buffer data beyond).ipv6? offset := by
  rw [ipv6?, Buffer.ipv6?, covers_eq_holds data beyond]
  split
  · rename_i h
    have h : offset + 40 ≤ data.length := of_decide_eq_true h
    rw [word?_eq_word data beyond (by omega), getElem?_eq_octet data beyond (by omega),
      slice?_eq_octets data beyond (by omega), slice?_eq_octets data beyond (by omega)]
    rfl
  · rfl

/-- The version is found by the check of one octet. -/
theorem networkFamily?_eq_buffer (offset : Nat) (hookFamily : UInt8) :
    networkFamily? data offset hookFamily
      = (buffer data beyond).networkFamily? offset hookFamily := by
  rw [networkFamily?_eq, Buffer.networkFamily?, versionFamily?_eq]
  -- There is a first octet just when the check of it says so.
  by_cases h : offset < data.length
  · rw [getElem?_eq_octet data beyond h,
      show (buffer data beyond).holds offset 1 = true from decide_eq_true h]
    rfl
  · rw [List.getElem?_eq_none (Nat.le_of_not_lt h),
      show (buffer data beyond).holds offset 1 = false from decide_eq_false h]
    rfl

/-- The network header is found without further checks. -/
theorem network?_eq_buffer (offset : Nat) (hookFamily : UInt8) :
    network? data offset hookFamily = (buffer data beyond).network? offset hookFamily := by
  rw [network?, Buffer.network?, ← networkFamily?_eq_buffer]
  cases networkFamily? data offset hookFamily with
  | none => rfl
  | some family =>
    cases family <;> first | rfl | exact ipv4?_eq_buffer .. | exact ipv6?_eq_buffer ..

/-- The ports are found without further checks. -/
theorem ports?_eq_buffer (offset : Nat) (protocol : UInt8) :
    ports? data offset protocol = (buffer data beyond).ports? offset protocol := by
  rw [ports?, Buffer.ports?]
  cases hsize : transportSize? protocol with
  | none => rfl
  | some size =>
    -- Either transport header is longer than the two ports at its start.
    have hports : 4 ≤ size := by
      rw [transportSize?] at hsize
      split at hsize
      · cases hsize
        decide
      · split at hsize
        · cases hsize
          decide
        · cases hsize
    simp only [Option.bind_eq_bind, Option.bind_some]
    rw [covers_eq_holds data beyond]
    split
    · rename_i h
      have h : offset + size ≤ data.length := of_decide_eq_true h
      rw [word?_eq_word data beyond (by omega), word?_eq_word data beyond (by omega)]
      rfl
    · rfl

/-- Without any check but those of whole headers the same headers are
found, whatever lies behind the buffer. -/
theorem headers_eq_buffer (p : Packet) (beyond : List UInt8) (hookFamily : UInt8) :
    p.headers hookFamily
      = (buffer p.data beyond).headers p.linkOffset p.networkOffset hookFamily := by
  -- The same reads behind the link header, whether there is one or not.
  have hinner : ∀ link, p.innerHeaders hookFamily link
      = (buffer p.data beyond).innerHeaders p.networkOffset hookFamily link := by
    intro link
    rw [innerHeaders, Buffer.innerHeaders, network?_eq_buffer p.data beyond]
    cases (buffer p.data beyond).network? p.networkOffset.toNat hookFamily with
    | none => rfl
    | some h =>
      dsimp only [Option.bind_some]
      rw [ports?_eq_buffer p.data beyond]
  rw [headers, Buffer.headers]
  cases p.linkOffset with
  | none => exact hinner none
  | some offset =>
    dsimp only [Option.elim_some]
    rw [link?_eq_buffer p.data beyond]
    cases (buffer p.data beyond).link? offset.toNat with
    | none => rfl
    | some link => exact hinner (some link)

end Packet

/-! ### Smaller buffers in one memory -/

/-- The part is missing, or it is the whole. -/
def Cut {α : Type} (part whole : Option α) : Prop := part = none ∨ part = whole

section
variable {α β : Type}

/-- The whole is a part too. -/
theorem Cut.refl (x : Option α) : Cut x x := .inr rfl

/-- What is checked less often is missing less often. -/
theorem cut_ite {c d : Bool} (h : c = true → d = true) (x : Option α) :
    Cut (if c then x else none) (if d then x else none) := by
  cases c with
  | false => exact .inl rfl
  | true =>
    rw [h rfl]
    exact .refl x

/-- What follows from a part is missing, or follows from the whole. -/
theorem Cut.bind {part whole : Option α} (h : Cut part whole) {f g : α → Option β}
    (hfg : ∀ x, Cut (f x) (g x)) : Cut (part.bind f) (whole.bind g) := by
  rcases h with rfl | rfl
  · exact .inl rfl
  · cases part with
    | none => exact .inl rfl
    | some x => exact hfg x

/-- A part gives what the whole gives, where it is not missing. -/
theorem Cut.elim {part whole : Option α} (h : Cut part whole) (x : β) (f : α → β) :
    part.elim x f = if part.isSome then whole.elim x f else x := by
  rcases h with rfl | rfl
  · rfl
  · cases part <;> rfl

end

namespace Buffer

variable {memory : List UInt8} {few many : Nat} (h : few ≤ many)
include h

/-- A larger buffer holds what a smaller one holds. -/
theorem holds_of_le (offset n : Nat) :
    (mk memory few).holds offset n = true → (mk memory many).holds offset n = true := by
  rw [holds, holds, decide_eq_true_iff, decide_eq_true_iff]
  dsimp only
  omega

/-- The link addresses are missing in a smaller buffer, or the same. -/
theorem link?_cut (offset : Nat) :
    Cut ((mk memory few).link? offset) ((mk memory many).link? offset) :=
  cut_ite (holds_of_le h offset 14) _

/-- The version is missing in a smaller buffer, or the same. -/
theorem networkFamily?_cut (offset : Nat) (hookFamily : UInt8) :
    Cut ((mk memory few).networkFamily? offset hookFamily)
      ((mk memory many).networkFamily? offset hookFamily) := by
  rw [networkFamily?, networkFamily?]
  split
  · exact .refl _
  · split
    · exact .refl _
    · exact cut_ite (holds_of_le h offset 1) _

/-- So is the network header of a version. -/
theorem networkOf_cut (offset : Nat) (family : Family) :
    Cut ((mk memory few).networkOf offset family) ((mk memory many).networkOf offset family) := by
  cases family with
  | ipv4 => exact cut_ite (holds_of_le h offset 20) _
  | ipv6 => exact cut_ite (holds_of_le h offset 40) _
  | inet => exact .refl _
  | arp => exact .refl _
  | netdev => exact .refl _
  | bridge => exact .refl _

/-- So is the network header. -/
theorem network?_cut (offset : Nat) (hookFamily : UInt8) :
    Cut ((mk memory few).network? offset hookFamily)
      ((mk memory many).network? offset hookFamily) :=
  (networkFamily?_cut h offset hookFamily).bind (networkOf_cut h offset)

/-- So are the ports. -/
theorem ports?_cut (offset : Nat) (protocol : UInt8) :
    Cut ((mk memory few).ports? offset protocol) ((mk memory many).ports? offset protocol) :=
  (Cut.refl _).bind fun size => cut_ite (holds_of_le h offset size) _

end Buffer

namespace Headers

/-- Headers of which only the outer ones are left, each of them whole.
Nothing is left inside of a header that is missing. -/
structure OuterOf (part whole : Headers) : Prop where
  link : Cut part.link whole.link
  network : Cut part.network whole.network
  ports : Cut part.ports whole.ports
  network_of_ports : part.ports.isSome = true → part.network.isSome = true

end Headers

namespace Buffer

variable {memory : List UInt8} {few many : Nat} (h : few ≤ many)
include h

/-- A smaller buffer shows no ports without their network header. -/
theorem innerHeaders_outer (networkOffset : UInt16) (hookFamily : UInt8)
    (link : Option (Endpoints Mac)) :
    ((mk memory few).innerHeaders networkOffset hookFamily link).OuterOf
      ((mk memory many).innerHeaders networkOffset hookFamily link) where
  link := .refl link
  network := network?_cut h networkOffset.toNat hookFamily
  ports := (network?_cut h networkOffset.toNat hookFamily).bind fun x =>
    ports?_cut h x.payload x.protocol
  network_of_ports := by
    rw [innerHeaders]
    dsimp only
    -- Without a network header no ports are looked for.
    cases (mk memory few).network? networkOffset.toNat hookFamily with
    | none => exact id
    | some x => exact fun _ => rfl

/-- A smaller buffer shows the outer ones of the headers, and inner ones
only behind a link header that it shows, where there is to be one. -/
theorem headers_outer (linkOffset : Option UInt16) (networkOffset : UInt16) (hookFamily : UInt8) :
    ((mk memory few).headers linkOffset networkOffset hookFamily).OuterOf
        ((mk memory many).headers linkOffset networkOffset hookFamily) ∧
      (((mk memory few).headers linkOffset networkOffset hookFamily).network.isSome = true →
        ((mk memory few).headers linkOffset networkOffset hookFamily).link.isSome = true ∨
          linkOffset = none) := by
  cases linkOffset with
  | none => exact ⟨innerHeaders_outer h networkOffset hookFamily none, fun _ => .inr rfl⟩
  | some offset =>
    rw [headers, headers, Option.elim_some, Option.elim_some]
    cases hlink : (mk memory few).link? offset.toNat with
    | none =>
      -- Behind a link header that is missing nothing is looked for.
      refine ⟨⟨.inl rfl, .inl rfl, .inl rfl, fun hports => ?_⟩, fun hnetwork => ?_⟩
      · cases hports
      · cases hnetwork
    | some link =>
      -- The larger buffer then shows the same one, so both go on alike.
      have hcut : Cut ((mk memory few).link? offset.toNat) ((mk memory many).link? offset.toNat) :=
        link?_cut h offset.toNat
      have hwhole : (mk memory many).link? offset.toNat = some link := by
        rcases hcut with hnone | hsame
        · rw [hlink] at hnone
          cases hnone
        · rw [← hsame, hlink]
      rw [hwhole]
      exact ⟨innerHeaders_outer h networkOffset hookFamily (some link), fun _ => .inl rfl⟩

end Buffer

namespace Packet

/-- The first octets of a packet. -/
def cutTo (p : Packet) (n : Nat) : Packet := { p with data := p.data.take n }

/-- The headers of a packet that was cut off. What was cut off is what
lies behind the buffer now. -/
theorem headers_cutTo (p : Packet) (n : Nat) (hookFamily : UInt8) :
    ((p.cutTo n).headers hookFamily).OuterOf (p.headers hookFamily) ∧
      (((p.cutTo n).headers hookFamily).network.isSome = true →
        ((p.cutTo n).headers hookFamily).link.isSome = true ∨ p.linkOffset = none) := by
  -- The memory is that of the whole packet, only the size is less.
  have hcut : (p.cutTo n).headers hookFamily
      = (Buffer.mk p.data (p.data.take n).length).headers p.linkOffset p.networkOffset
          hookFamily := by
    rw [headers_eq_buffer (p.cutTo n) (p.data.drop n)]
    show (Buffer.mk (p.data.take n ++ p.data.drop n) _).headers _ _ _ = _
    rw [List.take_append_drop]
    rfl
  have hwhole : p.headers hookFamily
      = (Buffer.mk p.data p.data.length).headers p.linkOffset p.networkOffset hookFamily := by
    rw [headers_eq_buffer p [], buffer, List.append_nil]
  rw [hcut, hwhole]
  exact Buffer.headers_outer (List.length_take_le' n p.data) ..

end Packet

namespace Record

/-- The outer ones of some headers fill some groups of fields, each as
all the headers do. -/
theorem withHeaders_of_outer {part whole : Headers} (h : part.OuterOf whole) (r : Record) :
    r.withHeaders part = { r with
      link := if part.link.isSome then (r.withHeaders whole).link else r.link
      length := if part.network.isSome then (r.withHeaders whole).length else r.length
      protocol := if part.network.isSome then (r.withHeaders whole).protocol else r.protocol
      ipv4 := if part.network.isSome then (r.withHeaders whole).ipv4 else r.ipv4
      ipv6 := if part.network.isSome then (r.withHeaders whole).ipv6 else r.ipv6
      ports := if part.ports.isSome then (r.withHeaders whole).ports else r.ports } := by
  rw [withHeaders_eq r part, withHeaders_eq r whole]
  dsimp only
  rw [h.link.elim, h.ports.elim, h.network.elim r.length, h.network.elim r.protocol,
    h.network.elim r.ipv4, h.network.elim r.ipv6]

/-- Headers have the addresses of one form only. -/
theorem ipv4_or_ipv6_withHeaders (r : Record) (h : Headers) :
    (r.withHeaders h).ipv4 = r.ipv4 ∨ (r.withHeaders h).ipv6 = r.ipv6 := by
  rw [withHeaders_eq]
  cases h.network with
  | none => exact .inl rfl
  | some x =>
    obtain ⟨_ | _, length, protocol, payload⟩ := x
    · exact .inr rfl
    · exact .inl rfl

/-- Any packet, any hook, any record, and any number of octets that are
left of the packet.

Reading the headers looks at no octet behind the end: with nothing to
stop it but the checks of whole headers it finds the same, whatever
stands there. What it fills of the record are some of three groups, the
link addresses, the fields of the network header and the ports. Each
group stays as it was or becomes what it becomes with the whole packet.
The ports are filled only if the network fields are, with the addresses
of one form, and these only if the link addresses are, or there is to be
no link header. Nothing else changes. -/
theorem withHeaders_of_cut (p : Packet) (n : Nat) (hookFamily : UInt8) (r : Record) :
    let part := (p.cutTo n).headers hookFamily
    let full := r.withHeaders (p.headers hookFamily)
    (∀ beyond, part = (Packet.buffer (p.cutTo n).data beyond).headers p.linkOffset
      p.networkOffset hookFamily) ∧
    r.withHeaders part = { r with
      link := if part.link.isSome then full.link else r.link
      length := if part.network.isSome then full.length else r.length
      protocol := if part.network.isSome then full.protocol else r.protocol
      ipv4 := if part.network.isSome then full.ipv4 else r.ipv4
      ipv6 := if part.network.isSome then full.ipv6 else r.ipv6
      ports := if part.ports.isSome then full.ports else r.ports } ∧
    part.OuterOf (p.headers hookFamily) ∧
    (full.ipv4 = r.ipv4 ∨ full.ipv6 = r.ipv6) ∧
    (part.network.isSome = true → part.link.isSome = true ∨ p.linkOffset = none) := by
  intro part full
  obtain ⟨houter, hlink⟩ := p.headers_cutTo n hookFamily
  exact ⟨fun beyond => (p.cutTo n).headers_eq_buffer beyond hookFamily,
    r.withHeaders_of_outer houter, houter, r.ipv4_or_ipv6_withHeaders _, hlink⟩

end Record

end RuleTrace
