import RuleTrace.Notification.Json
import RuleTrace.Proofs.Json.Faithful

/-!
# `RuleTrace.Proofs.Notification.Json`: events and notifications read back

The codecs of notifications are put together of faithful ones, so what is
written of a notification is read back, and so is an event
(`Event.written_and_read_back`).

An event and a notification are read in different ways from the same
object: the one keeps all members but the core as values and makes the
notification of them in the end, the other one reads each field as soon
as it is met and skips the core like any other unknown name. Where the
first one gives a notification, the second one gives the same
(`Event.notification_of_parse`). The converse fails: what the second one
skips needs not be readable.
-/

set_option autoImplicit false

namespace RuleTrace

open Json (Codec StructField Value readAll readValue skipSpace)
open Json.Codec

/-! ### Parts of a notification -/

section
variable (depth : Nat)

/-- Packets are read back. -/
theorem Packet.faithful : Packet.codec.Faithful (depth + 2) :=
  faithful_struct (fun _ =>
    .field (faithful_word64 _) <| .field (faithful_word32 _) <| .field (faithful_word32 _) <|
    .field (faithful_word32 _) <| .field (faithful_word8 depth).list <|
    .field ((faithful_word16 _).optional fun _ h => by cases h) <|
    .field (faithful_word16 _) .done) (by decide)

/-- Devices are read back. -/
theorem Device.faithful : Device.codec.Faithful (depth + 1) :=
  faithful_struct (fun _ =>
    .field (faithful_word32 _) <| .field (faithful_word16 _) <| .field (faithful_text _) .done)
    (by decide)

/-- Hooks are read back. -/
theorem Hook.faithful : Hook.codec.Faithful (depth + 2) :=
  have device := (Device.faithful depth).optional fun _ h => by cases h
  faithful_struct (fun _ =>
    .field (faithful_word8 _) <| .field device <| .field device .done) (by decide)

/-- Chains are read back. -/
theorem Chain.faithful : Chain.codec.Faithful (depth + 1) :=
  faithful_struct (fun _ =>
    .field (faithful_text _) <| .field (faithful_word64 _) <| .field (faithful_word8 _) <|
    .field (faithful_text _) <| .field (faithful_word64 _) <| .field (faithful_word8 _) .done)
    (by decide)

/-- Rulings are read back. -/
theorem Ruling.faithful : Ruling.codec.Faithful (depth + 1) :=
  faithful_struct (fun _ =>
    .field (faithful_int32 _) <|
    .field ((faithful_text _).optional fun _ h => by cases h) .done) (by decide)

/-- What is written of a notification fills the default up to it. -/
theorem Notification.fills (n : Notification) :
    Fills (depth + 2) n Notification.fields default :=
  .field (Packet.faithful _) <| .field (Hook.faithful _) <| .field (Chain.faithful _) <|
  .field (faithful_word64 _) <| .field (faithful_word8 _) <| .field (Ruling.faithful _) .done

/-- The fields of a notification are read straight from the text. -/
theorem Notification.streams : ∀ f ∈ fields, f.Streams := (Notification.fills 0 default).streams

/-- No two fields of a notification have one name. -/
theorem Notification.nodup_names : (Notification.fields.map StructField.name).Nodup := by decide

/-- Notifications are read back. -/
theorem Notification.faithful : Notification.codec.Faithful (depth + 3) :=
  faithful_struct (Notification.fills depth) Notification.nodup_names

end

namespace Event

/-! ### The members of an event -/

/-- Puts one member into what was read of an event. -/
def put? (p : Partial) (m : String × Value) : Option Partial :=
  if m.1 = "cpu" then
    if p.core.isSome then none
    else (coreCodec.ofValue? m.2).map fun core => { p with core := some core }
  else some { p with members := p.members ++ [m] }

/-- The core is read straight from the text. -/
theorem streams_coreCodec : coreCodec.Streams := (streams_natural _).optional

/-- A core is a value without parts. -/
theorem readValue_of_coreCodec {s rest : List Char} {core : Option Nat}
    (h : coreCodec.read s = .ok (core, rest)) : ∃ v, readValue 0 s = .ok (v, rest) := by
  simp only [coreCodec, Codec.optional] at h
  split at h
  · -- Null is a value of its own, not one that was converted.
    rename_i t hs
    cases hnull : Json.literal "ull".toList t with
    | error e =>
      rw [hnull] at h
      cases h
    | ok u =>
      rw [hnull] at h
      cases h
      refine ⟨.null, ?_⟩
      rw [← readValue_skipSpace, hs]
      show (Json.literal "ull".toList t).map _ = _
      rw [hnull]
      rfl
  · obtain ⟨n, hn, -⟩ := Json.map_eq_ok h
    obtain ⟨v, hv, -⟩ := readScalarAs_eq_ok hn
    exact ⟨v, (readValue_skipSpace 0 s).symm.trans hv⟩

/-- A member is read as it is put once its value was read. -/
theorem readMember_of_readValue {p next : Partial} {name : String} {s rest : List Char} {v : Value}
    (hread : Json.afterColon (readValue memberDepth) s = .ok (v, rest))
    (hput : put? p (name, v) = some next) : readMember p name s = .ok (next, rest) := by
  obtain ⟨t, -, -, ht, hother⟩ := Json.afterColon_eq_ok hread
  rw [put?] at hput
  rw [readMember]
  dsimp only at hput
  split at hput
  · rename_i hcpu
    rw [if_pos hcpu]
    split at hput
    · cases hput
    · rename_i hnew
      obtain ⟨core, hcore, rfl⟩ := Option.map_eq_some_iff.mp hput
      rw [if_neg hnew, hother, streams_coreCodec ht hcore]
      rfl
  · -- Any other member is kept as the value that was read.
    rename_i hother
    cases hput
    rw [if_neg hother, hread]
    rfl

/-- What is read of a member is a value, which the notification takes up
unless it is the core. -/
theorem readMember_eq_ok {p next : Partial} {name : String} {s rest : List Char}
    (h : readMember p name s = .ok (next, rest)) :
    ∃ depth v, Json.afterColon (readValue depth) s = .ok (v, rest) ∧
      (name = "cpu" ∧ next.members = p.members ∨
        name ≠ "cpu" ∧ next.members = p.members ++ [(name, v)]) := by
  rw [readMember] at h
  split at h
  · rename_i hcpu
    split at h
    · cases h
    · obtain ⟨core, hcore, rfl⟩ := Json.map_eq_ok (f := fun c => { p with core := some c }) h
      obtain ⟨t, -, -, ht, hother⟩ := Json.afterColon_eq_ok hcore
      obtain ⟨v, hv⟩ := readValue_of_coreCodec ht
      exact ⟨0, v, (hother _).trans hv, .inl ⟨hcpu, rfl⟩⟩
  · rename_i hcpu
    obtain ⟨v, hv, rfl⟩ :=
      Json.map_eq_ok (f := fun v => { p with members := p.members ++ [(name, v)] }) h
    exact ⟨memberDepth, v, hv, .inr ⟨hcpu, rfl⟩⟩

/-- A member of an event is taken off the front. -/
theorem takes_readMember (p : Partial) (name : String) : Json.Takes (readMember p name) := by
  intro s next rest h
  obtain ⟨depth, v, hv, -⟩ := readMember_eq_ok h
  exact Json.takes_afterColon (Json.takes_readValue depth) hv

/-! ### Whole events -/

/-- Nothing but an object is read as an event. -/
theorem read_eq_ok {s rest : List Char} {e : Event} (h : read s = .ok (e, rest)) :
    ∃ t p, skipSpace s = '\x7b' :: t ∧ p.event? = some e ∧
      Json.members Json.readString readMember ⟨none, []⟩ t = .ok (p, rest) := by
  unfold read at h
  split at h
  · rename_i t hs
    split at h
    · cases h
    · rename_i p rest' hmembers
      cases hevent : p.event? with
      | none =>
        rw [hevent] at h
        cases h
      | some e' =>
        rw [hevent] at h
        cases h
        exact ⟨t, p, hs, hevent, hmembers⟩
  · obtain ⟨v, -, hv⟩ := readScalarAs_eq_ok h
    cases hv

/-- Every text that is read as an event is read as a notification of its
own too, and that is the notification of the event: whatever the core is,
and whatever the names, the order and the forms of the other members. -/
theorem notification_of_parse {s : List Char} {e : Event} (h : parse s = .ok e) :
    Notification.codec.parse s = .ok e.notification := by
  obtain ⟨rest, hread, hend⟩ := Json.readAll_eq_ok_iff.mp h
  obtain ⟨t, p, hs, hevent, hmembers⟩ := read_eq_ok hread
  obtain ⟨n, hn, rfl⟩ := Option.map_eq_some_iff.mp hevent
  rw [ofMembers?_eq] at hn
  obtain ⟨last, hput, rfl⟩ := Option.map_eq_some_iff.mp hn
  -- The two loops meet the same names; the core is put nowhere.
  have hfollow := Json.members_follows Json.readString
    (Codec.readMember Notification.fields) id Partial.members Json.takes_readString takes_readMember
    (fun _ _ _ hk => hk)
    (fun p name u next w _ hu => by
      obtain ⟨depth, v, hv, ⟨rfl, hsame⟩ | ⟨-, hmore⟩⟩ := readMember_eq_ok hu
      · refine ⟨[], by rw [hsame, List.append_nil], fun state last hone => ?_⟩
        cases hone
        exact Codec.readMember_of_readValue Notification.streams hv rfl
      · refine ⟨[(name, v)], hmore, fun state last hone => ?_⟩
        exact Codec.readMember_of_readValue Notification.streams hv
          (Json.eq_some_of_foldlM_singleton hone))
    hmembers rfl hput
  refine Json.readAll_eq_ok_iff.mpr ⟨rest, ?_, hend⟩
  simp only [Notification.codec, struct, hs, hfollow]
  rfl

/-- Members in any order and of any name, an escaped name, structures
that are arrays, and a number that only an unknown member may have. -/
theorem notification_of_parse_mixed :
    let text := "\x7b\"seen\":[\x7b\"at\":1.5e3\x7d,null],\"verdict\":[-5,\"in\\u0070ut\"],"
      ++ "\"cpu\":3,\"hook\":\x7b\"out_dev\":[7],\"nfproto\":10\x7d,"
      ++ "\"rule_h\\u0061ndle\":18446744073709551615,"
      ++ "\"packet\":\x7b\"mac_header\":null,\"data\":[1,255],\"mark\":4\x7d\x7d"
    let n : Notification :=
      { packet := { (default : Packet) with mark := 4, data := [1, 255] }
        hook := ⟨10, none, some { (default : Device) with index := 7 }⟩
        chain := default
        ruleHandle := 18446744073709551615
        eventKind := 0
        verdict := ⟨-5, some "input"⟩ }
    parse text.toList = .ok ⟨some 3, n⟩ ∧ Notification.codec.parse text.toList = .ok n := by
  intro text n
  have hread : (parse text.toList).toOption = some ⟨some 3, n⟩ := by decide +kernel
  -- The reading is evaluated as an option, since faults have no equality that decides.
  have h : parse text.toList = .ok ⟨some 3, n⟩ := by
    cases hparse : parse text.toList with
    | error e =>
      rw [hparse] at hread
      cases hread
    | ok e =>
      rw [hparse] at hread
      exact congrArg Except.ok (Option.some.inj hread)
  exact ⟨h, notification_of_parse h⟩

/-- A number that is too great for any reader can still be skipped. -/
example : (parse "\x7b\"x\":1e400\x7d".toList).toOption = none ∧
    (Notification.codec.parse "\x7b\"x\":1e400\x7d".toList).toOption = some default := by
  decide +kernel

/-- An event is read from an object that can be read as a value, if its
members can be put together to one. -/
theorem read_of_readValue {s rest : List Char} {ms : List (String × Value)} {p : Partial}
    {e : Event} (hread : readValue (memberDepth + 1) s = .ok (.object ms, rest))
    (hput : ms.foldlM put? ⟨none, []⟩ = some p) (hevent : p.event? = some e) :
    read s = .ok (e, rest) := by
  rcases Json.readValue_cases hread with
    ⟨c, t, -, -, -, hscalar⟩ | ⟨d, t, vs, -, -, hvs, -⟩ | ⟨d, t, us, hd, hs, hus, hmembers⟩
  · -- The value is an object, so the other two forms of a value are out.
    exact (Json.skipScalar_of_readScalar hscalar).2.1.elim
  · cases hvs
  · cases hus
    cases hd
    have hfollow := Json.members_follows Json.readString readMember id id Json.takes_readString
      (Json.takes_addMember (Json.takes_readValue memberDepth)) (fun _ _ _ hk => hk)
      (fun ms name u next w _ hu => by
        obtain ⟨v, hv, rfl⟩ := Json.addMember_eq_ok hu
        refine ⟨[(name, v)], rfl, fun state last hone => ?_⟩
        exact readMember_of_readValue hv (Json.eq_some_of_foldlM_singleton hone))
      hmembers rfl hput
    simp only [read, hs, hfollow, hevent]
    rfl

/-! ### What is written is read back -/

/-- The event of a notification that came on a core, if that is known. -/
def recorded (core : Option UInt64) (n : Notification) : Event := ⟨core.map UInt64.toNat, n⟩

/-- The member that tells the core. -/
def coreMembers (core : Option UInt64) : List (String × Value) :=
  match core with
  | none => []
  | some core => [("cpu", .number (.natural core.toNat))]

/-- An event is written as its notification, with the core in front. -/
theorem toValue_recorded (core : Option UInt64) (n : Notification) :
    (recorded core n).toValue = .object (coreMembers core ++ toMembers Notification.fields n) := by
  cases core <;> rfl

/-- What is written of an event is readable. -/
theorem readable_recorded (core : Option UInt64) (n : Notification) :
    (Value.object (coreMembers core ++ toMembers Notification.fields n)).Readable
      (memberDepth + 1) := by
  intro m hm
  rcases List.mem_append.mp hm with hm | hm
  · cases core with
    | none => cases hm
    | some core =>
      rw [List.mem_singleton.mp hm]
      exact core.toNat_lt
  · exact (Notification.fills 124 n).readable m hm

/-- What is written of the core is put where the core is. -/
theorem foldlM_coreMembers (core : Option UInt64) :
    (coreMembers core).foldlM put? ⟨none, []⟩
      = some ⟨core.map fun core => some core.toNat, []⟩ := by
  cases core with
  | none => rfl
  | some core =>
    have hmade : coreCodec.ofValue? (.number (.natural core.toNat)) = some (some core.toNat) := by
      show (if core.toNat < UInt64.size then some core.toNat else none).map some = _
      rw [if_pos core.toNat_lt]
      rfl
    show (put? ⟨none, []⟩ ("cpu", .number (.natural core.toNat))).bind some = _
    rw [put?, if_pos rfl, hmade]
    rfl

/-- No field of a notification has the name of the core. -/
theorem cpu_not_mem (n : Notification) :
    "cpu" ∉ (toMembers Notification.fields n).map Prod.fst := by
  show "cpu" ∉ ["packet", "hook", "chain", "rule_handle", "trace_type", "verdict"]
  decide

/-- Members of other names are kept. -/
theorem foldlM_put? {ms : List (String × Value)} (h : "cpu" ∉ ms.map Prod.fst) (p : Partial) :
    ms.foldlM put? p = some { p with members := p.members ++ ms } := by
  induction ms generalizing p with
  | nil => simp
  | cons m ms ih =>
    have hm : m.1 ≠ "cpu" := fun he => h (he ▸ List.mem_cons_self)
    have hms : "cpu" ∉ ms.map Prod.fst := fun hmem => h (List.mem_cons_of_mem _ hmem)
    have hput : put? p m = some { p with members := p.members ++ [m] } := if_neg hm
    rw [List.foldlM_cons, hput]
    show ms.foldlM put? _ = _
    rw [ih hms, List.append_assoc]
    rfl

/-- An event is read back from its compact text, and so is a notification
of its own. The text of an event is that of the notification with the
core in front of its members, or nothing if there is none. -/
theorem written_and_read_back (core : Option UInt64) (n : Notification) :
    parse (recorded core n).render = .ok (recorded core n) ∧
    Notification.codec.parse (Notification.codec.render n) = .ok n ∧
    ∃ ms, readAll (readValue 127) (Notification.codec.render n) = .ok (.object ms) ∧
      readAll (readValue 127) (recorded core n).render = .ok (.object (coreMembers core ++ ms)) ∧
      "cpu" ∉ ms.map Prod.fst := by
  have hfaithful := Notification.faithful 124
  have hreadable := readable_recorded core n
  have hrender : (recorded core n).render
      = (Value.object (coreMembers core ++ toMembers Notification.fields n)).render := by
    rw [render, toValue_recorded]
  refine ⟨?_, hfaithful.parse_render n, toMembers Notification.fields n,
    hfaithful.readAll_render n, ?_, cpu_not_mem n⟩
  · -- The text is read as a value first, whose members make up the event.
    have hread := Json.readValue_render hreadable Json.endsValue_nil
    rw [List.append_nil, ← hrender] at hread
    have hput : (coreMembers core ++ toMembers Notification.fields n).foldlM put? ⟨none, []⟩
        = some ⟨core.map fun core => some core.toNat, toMembers Notification.fields n⟩ := by
      rw [List.foldlM_append, foldlM_coreMembers]
      exact foldlM_put? (cpu_not_mem n) _
    have hevent : Partial.event?
        ⟨core.map fun core => some core.toNat, toMembers Notification.fields n⟩
        = some (recorded core n) := by
      have hmade : ofMembers? Notification.fields default [] (toMembers Notification.fields n)
          = some n := hfaithful.restores n
      rw [Partial.event?, hmade]
      cases core <;> rfl
    exact Json.readAll_eq_ok_iff.mpr ⟨[], read_of_readValue hread hput hevent, rfl⟩
  · rw [hrender]
    exact Json.readAll_render hreadable

end Event

end RuleTrace
