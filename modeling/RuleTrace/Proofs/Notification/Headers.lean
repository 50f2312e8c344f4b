import RuleTrace.Notification.Headers

/-!
# `RuleTrace.Proofs.Notification.Headers`: what decides on a header

Two questions are answered by cases in `RuleTrace.Notification.Headers`:
in which form a network header is read, and which fields of a record a
header fills. This module states the answers as equations, so that no
later proof goes through the cases again.
-/

set_option autoImplicit false

namespace RuleTrace

namespace Family

/-- A family is told by its code. -/
theorem ofCode?_eq_some_iff (n : UInt8) (f : Family) : ofCode? n = some f ↔ n = f.code := by
  constructor
  · unfold ofCode?
    split <;> rintro ⟨⟩ <;> rfl
  · rintro rfl
    cases f <;> rfl

/-- The family of a protocol version. -/
def ofVersion? (version : Nat) : Option Family :=
  if version = 4 then some .ipv4 else if version = 6 then some .ipv6 else none

end Family

namespace Packet

/-- The first half-octet of a header tells the version. -/
theorem versionFamily?_eq (data : List UInt8) (offset : Nat) :
    versionFamily? data offset
      = data[offset]?.bind fun first => Family.ofVersion? (first.toNat / 16) := by
  rw [versionFamily?]
  cases data[offset]? with
  | none => rfl
  | some first =>
    simp only [Option.bind_eq_bind, Option.bind_some, Family.ofVersion?]
    split
    · rename_i hversion
      rw [if_pos hversion]
    · rename_i hversion
      rw [hversion]
      rfl
    · rename_i hfour hsix
      rw [if_neg hfour, if_neg hsix]

/-- A hook that is bound to a version decides on the form of the header,
and the header decides at any other. -/
theorem networkFamily?_eq (data : List UInt8) (offset : Nat) (hookFamily : UInt8) :
    networkFamily? data offset hookFamily
      = if hookFamily = Family.ipv4.code then some .ipv4
        else if hookFamily = Family.ipv6.code then some .ipv6
        else versionFamily? data offset := by
  have hcode := Family.ofCode?_eq_some_iff hookFamily
  rw [networkFamily?]
  split
  · rename_i hf
    rw [if_pos ((hcode _).mp hf)]
  · rename_i hf
    have hne : hookFamily ≠ Family.ipv4.code := fun h => by simp [(hcode _).mpr h] at hf
    rw [if_neg hne, if_pos ((hcode _).mp hf)]
  · rename_i hipv4 hipv6
    rw [if_neg fun h => hipv4 ((hcode _).mpr h), if_neg fun h => hipv6 ((hcode _).mpr h)]

end Packet

/-- Each header fills fields of its own. -/
theorem Record.withHeaders_eq (r : Record) (h : Headers) : r.withHeaders h = { r with
    link := h.link.elim r.link fun x => x
    length := h.network.elim r.length NetworkHeader.length
    protocol := h.network.elim r.protocol NetworkHeader.protocol
    ipv4 := h.network.elim r.ipv4 fun x => (r.withNetwork x).ipv4
    ipv6 := h.network.elim r.ipv6 fun x => (r.withNetwork x).ipv6
    ports := h.ports.elim r.ports fun x => x } := by
  -- Each header is there or not, and a network header is of one of two forms.
  obtain ⟨_ | link, _ | ⟨_ | _, length, protocol, payload⟩, _ | ports⟩ := h <;> rfl

end RuleTrace
