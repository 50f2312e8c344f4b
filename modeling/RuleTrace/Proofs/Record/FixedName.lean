import Mathlib.Data.List.TakeWhile
import RuleTrace.Notification.ToRecord
import RuleTrace.Proofs.Notification.Headers

/-!
# `RuleTrace.Proofs.Record.FixedName`: names are equal when they are spelled alike

Where a name ends is worked out three times, each time from something
else: by the source when the name is put into its buffer, by the first
zero octet of the buffer when it is read, and by the first octet alone
when it is asked whether there is a name at all. Names themselves are
compared as whole buffers.

`Spelled` says what should be in a buffer without any of the three: the
longest beginning of the source that has no zero octet and leaves room
for one. `Ended` says how it lies there: only zeros follow it. A buffer
that is ended can be told from its name (`Ended.ofBytes_bytes`), and
these are just the buffers that are ever built (`built_iff_ended`). So
the three answers agree, and equal buffers are equal spellings
(`names_are_spellings`), for buffers of any size, also of one octet or
none.

Five names of a record come from a notification. All of them are built
in this way (`NamePlace.nameIn_toRecord`), a missing one from an empty text.
-/

set_option autoImplicit false

namespace RuleTrace

/-- Octets that fit are followed by zeros. -/
theorem Octets.bytes_padded {n : Nat} {bs : List UInt8} (h : bs.length ≤ n) :
    (padded n bs).bytes = bs ++ List.replicate (n - bs.length) 0 := by
  show (bs ++ List.replicate n 0).take n = _
  rw [List.take_append, List.take_of_length_le h, List.take_replicate,
    Nat.min_eq_left (Nat.sub_le n bs.length)]

namespace FixedName

/-! ### Spellings -/

/-- What a buffer of `n` octets should hold of a source: the longest
beginning of the source that has no zero octet and leaves room for
one. -/
structure Spelled (n : Nat) (source bs : List UInt8) : Prop where
  begins : bs <+: source
  zero_not_mem : 0 ∉ bs
  length_le : bs.length ≤ n - 1
  longest : ∀ cs, cs <+: source → 0 ∉ cs → cs.length ≤ n - 1 → cs.length ≤ bs.length

/-- What is taken up to the first zero octet has none. -/
theorem zero_not_mem_takeWhile (bs : List UInt8) : 0 ∉ bs.takeWhile (· != 0) := by
  intro hmem
  have hzero := List.mem_takeWhile_imp hmem
  simp at hzero

/-- A list without a zero octet is taken as a whole. -/
theorem takeWhile_append_of_zero_not_mem {bs : List UInt8} (h : 0 ∉ bs) (rest : List UInt8) :
    (bs ++ rest).takeWhile (· != 0) = bs ++ rest.takeWhile (· != 0) := by
  refine List.takeWhile_append_of_pos fun b hb => ?_
  have hne : b ≠ 0 := fun hzero => h (hzero ▸ hb)
  simpa using hne

/-- There is one spelling. -/
theorem Spelled.unique {n : Nat} {source bs cs : List UInt8} (h : Spelled n source bs)
    (h' : Spelled n source cs) : bs = cs := by
  have hle := h'.longest bs h.begins h.zero_not_mem h.length_le
  have hge := h.longest cs h'.begins h'.zero_not_mem h'.length_le
  -- Two beginnings of one source, each as long as the other.
  exact (List.prefix_of_prefix_length_le h.begins h'.begins hle).eq_of_length
    (Nat.le_antisymm hle hge)

/-- Cutting a source at its first zero octet and then to length finds
the longest beginning. -/
theorem spelled_take_takeWhile (n : Nat) (source : List UInt8) :
    Spelled n source ((source.takeWhile (· != 0)).take (n - 1)) where
  begins := (List.take_prefix _ _).trans (List.takeWhile_prefix _)
  zero_not_mem h := zero_not_mem_takeWhile source (List.mem_of_mem_take h)
  length_le := List.length_take_le _ _
  longest cs hbegins hnot hle := by
    obtain ⟨rest, rfl⟩ := hbegins
    rw [takeWhile_append_of_zero_not_mem hnot, List.length_take, List.length_append]
    omega

/-- An empty source is spelled by nothing. -/
theorem spelled_nil (n : Nat) : Spelled n [] [] := by
  have h := spelled_take_takeWhile n []
  rwa [List.takeWhile_nil, List.take_nil] at h

section
variable {n : Nat}

/-! ### Buffers -/

/-- The octets of a name and then zeros only, of which there is at least
one in a buffer that has any octets. -/
structure Ended (name : FixedName n) : Prop where
  raw_eq : name.raw = name.bytes ++ List.replicate (n - name.bytes.length) 0
  length_lt : 0 < n → name.bytes.length < n

/-- A name is built empty or from a source. -/
inductive Built : FixedName n → Prop where
  | empty : Built (.empty n)
  | ofBytes (source : List UInt8) : Built (.ofBytes n source)

/-- Two names are the same if their buffers are. -/
theorem ext_raw {name other : FixedName n} (h : name.raw = other.raw) : name = other :=
  congrArg FixedName.mk (Octets.ext h)

/-- A name is not longer than its buffer. -/
theorem length_bytes_le (name : FixedName n) : name.bytes.length ≤ n := by
  have hle : name.bytes.length ≤ name.raw.length := (List.takeWhile_prefix _).length_le
  rwa [show name.raw.length = n from name.buffer.length_bytes] at hle

/-- A spelling is put into the buffer as it is, with zeros behind it. -/
theorem raw_ofBytes {source bs : List UInt8} (h : Spelled n source bs) :
    (ofBytes n source).raw = bs ++ List.replicate (n - bs.length) 0 := by
  rw [h.unique (spelled_take_takeWhile n source)]
  refine Octets.bytes_padded ?_
  have := (spelled_take_takeWhile n source).length_le
  omega

/-- The first zero octet of the buffer is where the spelling ends. -/
theorem bytes_ofBytes {source bs : List UInt8} (h : Spelled n source bs) :
    (ofBytes n source).bytes = bs := by
  rw [bytes, raw_ofBytes h, takeWhile_append_of_zero_not_mem h.zero_not_mem,
    List.takeWhile_replicate]
  exact List.append_nil bs

/-- A name that is built reads as the spelling of its source. -/
theorem spelled_bytes_ofBytes (n : Nat) (source : List UInt8) :
    Spelled n source (ofBytes n source).bytes := by
  have h := spelled_take_takeWhile n source
  rwa [bytes_ofBytes h]

/-- A name that is built is followed by zeros only. -/
theorem ended_ofBytes (n : Nat) (source : List UInt8) : (ofBytes n source).Ended where
  raw_eq := raw_ofBytes (spelled_bytes_ofBytes n source)
  length_lt := by
    have := (spelled_bytes_ofBytes n source).length_le
    omega

/-- The empty name is what an empty source spells. -/
theorem ofBytes_nil (n : Nat) : ofBytes n [] = empty n := by
  refine ext_raw ?_
  rw [raw_ofBytes (spelled_nil n)]
  rfl

/-- The empty text makes the empty name. -/
theorem ofString_empty (n : Nat) : ofString n "" = empty n := ofBytes_nil n

namespace Ended
variable {name other : FixedName n}

/-- The octets of a name spell themselves. -/
theorem spelled_bytes (h : name.Ended) : Spelled n name.bytes name.bytes where
  begins := List.prefix_refl _
  zero_not_mem := zero_not_mem_takeWhile name.raw
  length_le := by
    have hle := name.length_bytes_le
    have hlt := h.length_lt
    omega
  longest cs hbegins _ _ := hbegins.length_le

/-- An ended buffer is built anew from the octets of its name. -/
theorem ofBytes_bytes (h : name.Ended) : ofBytes n name.bytes = name := by
  refine ext_raw ?_
  rw [raw_ofBytes h.spelled_bytes, ← h.raw_eq]

/-- Names in ended buffers are equal if they are spelled alike. -/
theorem eq_iff (h : name.Ended) (h' : other.Ended) : name = other ↔ name.bytes = other.bytes := by
  refine ⟨congrArg bytes, fun hbytes => ?_⟩
  rw [← h.ofBytes_bytes, hbytes, h'.ofBytes_bytes]

end Ended

/-- The buffers that are built are the ended ones. -/
theorem built_iff_ended (name : FixedName n) : name.Built ↔ name.Ended := by
  constructor
  · rintro (_ | source)
    · rw [← ofBytes_nil]
      exact ended_ofBytes n []
    · exact ended_ofBytes n source
  · intro h
    -- An ended buffer is the one built from its own octets.
    rw [← h.ofBytes_bytes]
    exact .ofBytes _

/-- The first octet of the buffer tells whether there is a name. -/
theorem isEmpty_iff (name : FixedName n) : name.isEmpty = true ↔ name.bytes = [] := by
  rw [isEmpty, bytes]
  -- A buffer without octets has no name either.
  cases name.raw with
  | nil => simp
  | cons b bs => simp [List.takeWhile_cons]

end

/-- Two sources make one name if and only if one spelling is right for
both. -/
theorem ofBytes_eq_iff (n : Nat) (source other : List UInt8) :
    ofBytes n source = ofBytes n other ↔ ∃ bs, Spelled n source bs ∧ Spelled n other bs := by
  rw [(ended_ofBytes n source).eq_iff (ended_ofBytes n other)]
  constructor
  · intro hbytes
    refine ⟨_, spelled_bytes_ofBytes n source, ?_⟩
    rw [hbytes]
    exact spelled_bytes_ofBytes n other
  · -- Both names read as the spelling that they share.
    rintro ⟨bs, h, h'⟩
    rw [bytes_ofBytes h, bytes_ofBytes h']

end FixedName

/-! ### The names of a record -/

/-- The chain that a verdict goes to, empty if it goes to none. -/
def Ruling.targetName (v : Ruling) : String :=
  if (Verdict.ofCode? v.code).any Verdict.hasTarget then v.target.getD "" else ""

/-- The chain that a record names is the one that the verdict goes to. -/
theorem Ruling.jumpTarget_eq (v : Ruling) : v.jumpTarget = .ofString 64 v.targetName := by
  rw [jumpTarget, targetName]
  cases Verdict.ofCode? v.code with
  | none => exact (FixedName.ofString_empty 64).symm
  | some verdict =>
    cases v.target with
    | none =>
      rw [Option.getD_none, ite_self]
      exact (FixedName.ofString_empty 64).symm
    | some target =>
      -- A target given with a verdict that goes nowhere is passed over.
      by_cases hjumps : verdict.hasTarget
      · simp only [hjumps, Option.any_some, if_true, Option.getD_some]
      · simp only [hjumps, Option.any_some, Bool.false_eq_true, if_false]
        exact (FixedName.ofString_empty 64).symm

/-- The name of a device, empty if there is none. -/
def Device.nameOrEmpty (d : Option Device) : String := (d.map Device.name).getD ""

/-- The interface of a record has the name of the device. -/
theorem Device.name_interface (d : Option Device) :
    ((d.map interface).getD default).name = .ofString 16 (nameOrEmpty d) := by
  cases d with
  | none => exact (FixedName.ofString_empty 16).symm
  | some d => rfl

namespace Record

/-- The places of names in a record. -/
inductive NamePlace where
  | table
  | chain
  | jumpTarget
  | ingress
  | egress
  deriving DecidableEq

namespace NamePlace

/-- The size of the buffer. -/
def size : NamePlace → Nat
  | table | chain | jumpTarget => 64
  | ingress | egress => 16

/-- The name at this place of a record. -/
def nameIn (r : Record) : (place : NamePlace) → FixedName place.size
  | table => r.table
  | chain => r.chain
  | jumpTarget => r.jumpTarget
  | ingress => r.ingress.name
  | egress => r.egress.name

/-- The octets that a notification has for this place. -/
def source (x : Notification) (place : NamePlace) : List UInt8 :=
  let text : String :=
    match place with
    | table => x.chain.tableName
    | chain => x.chain.name
    | jumpTarget => x.verdict.targetName
    | ingress => Device.nameOrEmpty x.hook.ingress
    | egress => Device.nameOrEmpty x.hook.egress
  Text.Utf8.encode text.toList

/-- Each name is made of the octets for its place. -/
theorem nameIn_toRecord (place : NamePlace) (x : Notification) (now : UInt64) :
    place.nameIn (x.toRecord now) = .ofBytes place.size (place.source x) := by
  -- Headers fill no names.
  rw [Notification.toRecord, withHeaders_eq]
  cases place with
  | table => rfl
  | chain => rfl
  | jumpTarget => exact x.verdict.jumpTarget_eq
  | ingress => exact Device.name_interface x.hook.ingress
  | egress => exact Device.name_interface x.hook.egress

end NamePlace

end Record

namespace FixedName

/-- Buffers of any size.

A name reads as what should be in its buffer: the longest beginning of
its source that has no zero octet and leaves room for one. In every name
that is built only zeros follow, at least one if the buffer has octets;
the name is built anew from its octets; it is empty if and only if it has
none; and two names are equal if and only if their octets are.

So records of any two notifications have equal names at one place if and
only if the two sources agree on what should be in the buffer. -/
theorem names_are_spellings (n : Nat) :
    (∀ source, Spelled n source (ofBytes n source).bytes) ∧
    (∀ name : FixedName n, name.Built →
      name.Ended ∧ ofBytes n name.bytes = name ∧ (name.isEmpty = true ↔ name.bytes = []) ∧
      ∀ other : FixedName n, other.Built → (name = other ↔ name.bytes = other.bytes)) ∧
    ∀ (place : Record.NamePlace) (x y : Notification) (now later : UInt64),
      place.nameIn (x.toRecord now) = place.nameIn (y.toRecord later) ↔
        ∃ bs, Spelled place.size (place.source x) bs ∧ Spelled place.size (place.source y) bs := by
  refine ⟨spelled_bytes_ofBytes n, fun name hbuilt => ?_, fun place x y now later => ?_⟩
  · have h : name.Ended := name.built_iff_ended.mp hbuilt
    exact ⟨h, h.ofBytes_bytes, name.isEmpty_iff, fun other hother =>
      h.eq_iff (other.built_iff_ended.mp hother)⟩
  · rw [place.nameIn_toRecord, place.nameIn_toRecord]
    exact ofBytes_eq_iff place.size _ _

/-- Two interfaces whose names fill the buffer, one cut to length and the
other ended by a zero octet at the same place. -/
theorem names_are_spellings_of_interfaces :
    let named : String → Notification := fun name =>
      { (default : Notification) with hook := ⟨2, some ⟨3, 1, name⟩, none⟩ }
    let x := named "a-very-long-interface"
    let y := named "a-very-long-int\x00!"
    let place := Record.NamePlace.ingress
    let name := ofBytes 16 (place.source x)
    let other := ofBytes 16 (place.source y)
    name.Built ∧ other.Built ∧ name.bytes.length = 15 ∧ name.raw = name.bytes ++ [0] ∧
    name = other ∧ place.nameIn (x.toRecord 5) = place.nameIn (y.toRecord 6) := by
  intro named x y place name other
  obtain ⟨hspelled, hbuilt, hrecords⟩ := names_are_spellings 16
  have hname : name.Built := .ofBytes _
  have hother : other.Built := .ofBytes _
  have hbytes : name.bytes = other.bytes := by decide +kernel
  have hlength : name.bytes.length = 15 := by decide +kernel
  -- Names are equal if and only if their bytes up to the end are.
  obtain ⟨hended, -, -, hequal⟩ := hbuilt name hname
  refine ⟨hname, hother, hlength, ?_, (hequal other hother).mpr hbytes, ?_⟩
  · have hraw := hended.raw_eq
    rwa [hlength] at hraw
  · refine (hrecords place x y 5 6).mpr ⟨name.bytes, hspelled _, ?_⟩
    rw [hbytes]
    exact hspelled _

end FixedName

end RuleTrace
