import RuleTrace.Proofs.Record.Address
import RuleTrace.View.Basic

/-!
# `RuleTrace.Proofs.View.Text`: what a line of the text format tells of a flow

A line of the text format names many things, and most of them may hold
any character. Its last columns may not: endpoints are written with
digits, dots, colons and brackets, the protocol with letters and digits.
So these columns are told by the line, read from its end, whatever stands
before them (`columns_of_append`). Two records with the same line have
the same columns (`fiveTuple_of_textBody`).

The columns tell the flow as far as they show it. A protocol is told by
its column, by name or by number (`protocol_injective`), and an endpoint
by the address and the port (`endpoint_eq_iff`). Where there is no
address, a dash stands for the endpoint, and the port is not shown.
-/

set_option autoImplicit false

namespace RuleTrace

/-! ### Names of protocols -/

/-- The protocols with a short name. -/
def protocolNames : List (UInt8 × String) :=
  [(1, "icmp"), (2, "igmp"), (4, "ipip"), (6, "tcp"), (17, "udp"), (41, "ipv6"), (47, "gre"),
    (50, "esp"), (51, "ah"), (58, "icmpv6"), (132, "sctp"), (136, "udplite")]

/-- A protocol has only the names of the list. -/
theorem mem_protocolNames {n : UInt8} {s : String} (h : protocolName? n = some s) :
    (n, s) ∈ protocolNames := by
  unfold protocolName? at h
  split at h <;> cases h <;> decide

namespace View

open Text

/-! ### Words -/

/-- A word is written with letters, digits and minus signs. -/
def IsWord (s : List Char) : Prop := ∀ c ∈ s, c.isAlphanum = true ∨ c = '-'

instance (s : List Char) : Decidable (IsWord s) :=
  List.decidableBAll (fun c : Char => c.isAlphanum = true ∨ c = '-') s

/-- Any other character is not in a word. -/
theorem IsWord.not_mem {s : List Char} (h : IsWord s) {c : Char}
    (hc : (c.isAlphanum || c == '-') = false) : c ∉ s := by
  intro hmem
  rcases h c hmem with halnum | rfl
  · rw [halnum] at hc
    cases hc
  · cases hc

/-- A number is a word. -/
theorem isWord_decimal (n : Nat) : IsWord (decimal n) := by
  intro c hc
  exact .inl (by simp [Char.isAlphanum, isDigit_of_mem_decimal hc])

/-- So is a number with a sign. -/
theorem isWord_signedDecimal (z : Int) : IsWord (signedDecimal z) := by
  unfold signedDecimal
  split
  · intro c hc
    rcases List.mem_cons.mp hc with rfl | hdigit
    · exact .inr rfl
    · exact isWord_decimal _ c hdigit
  · exact isWord_decimal _

/-- A name or else a number is a word if both are. -/
theorem isWord_nameOr {name : Option String} {number : List Char}
    (hname : ∀ s ∈ name, IsWord s.toList) (hnumber : IsWord number) :
    IsWord (nameOr name number).toList := by
  cases name with
  | none => rwa [nameOr, Option.getD_none, String.toList_ofList]
  | some s => exact hname s rfl

section
variable (r : Record)

/-- The family is a word, by name or by number. -/
theorem isWord_family : IsWord (ofRecord r).family.toList := by
  refine isWord_nameOr ?_ (isWord_decimal _)
  intro s hs
  obtain ⟨f, -, rfl⟩ := Option.map_eq_some_iff.mp hs
  cases f <;> decide

/-- The verdict is a word. -/
theorem isWord_verdict : IsWord (ofRecord r).verdict.toList := by
  refine isWord_nameOr ?_ (isWord_signedDecimal _)
  intro s hs
  obtain ⟨v, -, rfl⟩ := Option.map_eq_some_iff.mp hs
  cases v <;> decide

/-- The protocol is a word. -/
theorem isWord_protocol : IsWord (ofRecord r).protocol.toList := by
  refine isWord_nameOr ?_ (isWord_decimal _)
  intro s hs
  -- The names are few enough to look at each.
  have hwords : ∀ p ∈ protocolNames, IsWord p.2.toList := by decide
  exact hwords _ (mem_protocolNames hs)

end

/-- A protocol is told by its name or its number. -/
theorem protocol_injective {r s : Record} (h : (ofRecord r).protocol = (ofRecord s).protocol) :
    r.protocol = s.protocol := by
  have hnames : ∀ p ∈ protocolNames, ∀ q ∈ protocolNames, p.2 = q.2 → p.1 = q.1 := by decide
  -- A name is never a number: not all of its characters are digits.
  have hletters : ∀ p ∈ protocolNames, ¬ p.2.toList.all Char.isDigit := by decide
  have hmixed : ∀ m n t, protocolName? m = some t → t ≠ String.ofList (decimal n) := by
    rintro m n t hm rfl
    refine hletters _ (mem_protocolNames hm) ?_
    rw [String.toList_ofList]
    refine List.all_eq_true.mpr ?_
    intro c hc
    exact isDigit_of_mem_decimal hc
  simp only [ofRecord, nameOr] at h
  cases hr : protocolName? r.protocol with
  | none =>
    cases hs : protocolName? s.protocol with
    | none =>
      rw [hr, hs] at h
      exact UInt8.toNat_inj.mp (decimal_injective (String.ofList_injective h))
    | some t =>
      rw [hr, hs] at h
      exact absurd h.symm (hmixed _ _ t hs)
  | some t =>
    cases hs : protocolName? s.protocol with
    | none =>
      rw [hr, hs] at h
      exact absurd h (hmixed _ _ t hr)
    | some u =>
      rw [hr, hs] at h
      exact hnames _ (mem_protocolNames hr) _ (mem_protocolNames hs) h

/-! ### Endpoints -/

/-- A dash stands for an endpoint without an address. -/
@[simp] theorem endpoint_none (port : UInt16) : endpoint (addressText none) port = ['-'] := rfl

/-- The port stands behind a short address. -/
theorem endpoint_v4 (o : Octets 4) (port : UInt16) :
    endpoint (addressText (some (.v4 o))) port
      = (Address.v4 o).text ++ ':' :: decimal port.toNat := by
  have hne := Address.text_ne_nil (.v4 o)
  have hcolon := Address.colon_not_mem_text_v4 o
  simp [endpoint, addressText, hne, hcolon]

/-- A long address has colons, so brackets are put around it. -/
theorem endpoint_v6 (o : Octets 16) (port : UInt16) :
    endpoint (addressText (some (.v6 o))) port
      = '[' :: ((Address.v6 o).text ++ ']' :: ':' :: decimal port.toNat) := by
  have hne := Address.text_ne_nil (.v6 o)
  have hcolon := Address.colon_mem_text_v6 o
  simp [endpoint, addressText, hne, hcolon]

/-- The signs of an endpoint. -/
def endpointSigns : List Char := ['.', ':', '[', ']', '-']

/-- An endpoint is written with hexadecimal digits and its signs. -/
theorem mem_endpoint {a : Option Address} {port : UInt16} {c : Char}
    (h : c ∈ endpoint (addressText a) port) :
    c ∈ endpointSigns ∨ (hexDigit? c).isSome := by
  have haddress : ∀ a : Address, c ∈ a.text → c ∈ endpointSigns ∨ (hexDigit? c).isSome := by
    intro a hc
    rcases Address.mem_text hc with rfl | rfl | hdigit
    · exact .inl (by decide)
    · exact .inl (by decide)
    · exact .inr hdigit
  -- A decimal digit is a hexadecimal one too.
  have hport : c ∈ decimal port.toNat → c ∈ endpointSigns ∨ (hexDigit? c).isSome := by
    intro hc
    exact .inr (isSome_hexDigit?_of_isDigit (isDigit_of_mem_decimal hc))
  match a with
  | none =>
    rw [endpoint_none, List.mem_singleton] at h
    rw [h]
    exact .inl (by decide)
  | some (.v4 o) =>
    rw [endpoint_v4, List.mem_append, List.mem_cons] at h
    rcases h with h | rfl | h
    · exact haddress _ h
    · exact .inl (by decide)
    · exact hport h
  | some (.v6 o) =>
    rw [endpoint_v6, List.mem_cons, List.mem_append, List.mem_cons, List.mem_cons] at h
    rcases h with rfl | h | rfl | rfl | h
    · exact .inl (by decide)
    · exact haddress _ h
    · exact .inl (by decide)
    · exact .inl (by decide)
    · exact hport h

/-- No other character is in an endpoint. -/
theorem not_mem_endpoint {c : Char}
    (hc : (c ∈ endpointSigns || (hexDigit? c).isSome) = false)
    (a : Option Address) (port : UInt16) : c ∉ endpoint (addressText a) port := by
  intro hmem
  rcases mem_endpoint hmem with hsign | hdigit
  · simp [hsign] at hc
  · simp [hdigit] at hc

/-- Only where there is an address, there is a colon. -/
theorem colon_mem_endpoint (a : Address) (port : UInt16) :
    ':' ∈ endpoint (addressText (some a)) port := by
  cases a with
  | v4 o => simp [endpoint_v4]
  | v6 o => simp [endpoint_v6]

/-- Only around a long address, there are brackets. -/
theorem bracket_not_mem_endpoint_v4 (o : Octets 4) (port : UInt16) :
    '[' ∉ endpoint (addressText (some (.v4 o))) port := by
  intro hmem
  rw [endpoint_v4, List.mem_append, List.mem_cons] at hmem
  rcases hmem with hmem | hmem | hmem
  · exact Address.not_mem_text (by decide) _ hmem
  · cases hmem
  · cases isDigit_of_mem_decimal hmem

/-- Around a long address there is one at least. -/
theorem bracket_mem_endpoint_v6 (o : Octets 16) (port : UInt16) :
    '[' ∈ endpoint (addressText (some (.v6 o))) port := by
  simp [endpoint_v6]

/-- The endpoint of an address tells the address and the port. -/
theorem endpoint_some_injective {a b : Address} {p q : UInt16}
    (h : endpoint (addressText (some a)) p = endpoint (addressText (some b)) q) :
    a = b ∧ p = q := by
  have hport : decimal p.toNat = decimal q.toNat → p = q := by
    intro hdigits
    exact UInt16.toNat_inj.mp (decimal_injective hdigits)
  match a, b with
  | .v4 o, .v4 o' =>
    -- The address ends at the first colon.
    rw [endpoint_v4, endpoint_v4] at h
    obtain ⟨haddress, hdigits⟩ :=
      cut_first (Address.colon_not_mem_text_v4 o) (Address.colon_not_mem_text_v4 o') h
    exact ⟨Address.text_injective haddress, hport hdigits⟩
  | .v6 o, .v6 o' =>
    -- The address ends at the closing bracket.
    rw [endpoint_v6, endpoint_v6] at h
    obtain ⟨haddress, hdigits⟩ := cut_first (Address.not_mem_text (by decide) (.v6 o))
      (Address.not_mem_text (by decide) (.v6 o')) (List.cons.inj h).2
    exact ⟨Address.text_injective haddress, hport (List.cons.inj hdigits).2⟩
  | .v4 o, .v6 o' =>
    -- One text would have brackets and have none.
    exact absurd (h ▸ bracket_mem_endpoint_v6 o' q) (bracket_not_mem_endpoint_v4 o p)
  | .v6 o, .v4 o' =>
    exact absurd (h ▸ bracket_mem_endpoint_v6 o p) (bracket_not_mem_endpoint_v4 o' q)

/-- An endpoint tells the address and, if there is one, the port. -/
theorem endpoint_eq_iff {a b : Option Address} {p q : UInt16} :
    endpoint (addressText a) p = endpoint (addressText b) q ↔ a = b ∧ (a.isSome → p = q) := by
  -- A dash stands for no address, and an address always brings a colon.
  have hdash : ∀ (a : Address) (p : UInt16), endpoint (addressText (some a)) p ≠ ['-'] := by
    intro a p hdash
    exact absurd (hdash ▸ colon_mem_endpoint a p) (by decide)
  constructor
  · intro h
    match a, b with
    | none, none => exact ⟨rfl, fun hsome => absurd hsome (by decide)⟩
    | none, some b => exact absurd h.symm (hdash b q)
    | some a, none => exact absurd h (hdash a p)
    | some a, some b =>
      obtain ⟨rfl, hport⟩ := endpoint_some_injective h
      exact ⟨rfl, fun _ => hport⟩
  · rintro ⟨rfl, hport⟩
    cases a with
    | none => rfl
    | some a => rw [hport rfl]

/-! ### Columns -/

/-- The columns of a view are told apart by their signs: neither spaces
nor equals signs are in them. -/
structure Columned (v : View) : Prop where
  source : ∀ c ∈ [' ', '='], c ∉ endpoint v.source v.sourcePort
  destination : ∀ c ∈ [' ', '='], c ∉ endpoint v.destination v.destinationPort
  protocol : ∀ c ∈ [' ', '='], c ∉ v.protocol.toList

/-- The view of a record has its columns apart. -/
theorem columned_ofRecord (r : Record) : (ofRecord r).Columned where
  source := by
    rw [List.forall_mem_cons, List.forall_mem_singleton]
    refine ⟨?_, ?_⟩
    · exact not_mem_endpoint (by decide) r.sourceAddress r.ports.source
    · exact not_mem_endpoint (by decide) r.sourceAddress r.ports.source
  destination := by
    rw [List.forall_mem_cons, List.forall_mem_singleton]
    refine ⟨?_, ?_⟩
    · exact not_mem_endpoint (by decide) r.destinationAddress r.ports.destination
    · exact not_mem_endpoint (by decide) r.destinationAddress r.ports.destination
  protocol := by
    rw [List.forall_mem_cons, List.forall_mem_singleton]
    refine ⟨?_, ?_⟩
    · exact (isWord_protocol r).not_mem (by decide)
    · exact (isWord_protocol r).not_mem (by decide)

/-- The last equals sign stands before the protocol, the one before it
before the destination, and the third from the end before the source. -/
theorem append_fiveTuple (s : List Char) (v : View) : s ++ v.fiveTuple
    = ((s ++ "src".toList ++ '=' :: (padRight 25 (endpoint v.source v.sourcePort) ++ " dst".toList))
      ++ '=' :: (padRight 25 (endpoint v.destination v.destinationPort) ++ " proto".toList))
      ++ '=' :: padRight 8 v.protocol.toList := by
  have hsource : "src=".toList = "src".toList ++ ['='] := rfl
  have hdestination : " dst=".toList = " dst".toList ++ ['='] := rfl
  have hprotocol : " proto=".toList = " proto".toList ++ ['='] := rfl
  delta fiveTuple
  simp only [hsource, hdestination, hprotocol, List.append_assoc, List.cons_append,
    List.nil_append]

/-- Two lines that end with the columns have the same columns, whatever
stands before them. -/
theorem columns_of_append {v w : View} (hv : v.Columned) (hw : w.Columned) {s t : List Char}
    (h : s ++ v.fiveTuple = t ++ w.fiveTuple) :
    endpoint v.source v.sourcePort = endpoint w.source w.sourcePort ∧
      endpoint v.destination v.destinationPort = endpoint w.destination w.destinationPort ∧
      v.protocol = w.protocol := by
  have hprotocolSign : ∀ {u : View}, u.Columned → '=' ∉ padRight 8 u.protocol.toList := by
    intro u hu
    exact not_mem_padRight (by decide) (hu.protocol '=' (by decide))
  have hdestinationSign : ∀ {u : View}, u.Columned →
      '=' ∉ padRight 25 (endpoint u.destination u.destinationPort) ++ " proto".toList := by
    intro u hu
    exact List.not_mem_append
      (not_mem_padRight (by decide) (hu.destination '=' (by decide))) (by decide)
  have hsourceSign : ∀ {u : View}, u.Columned →
      '=' ∉ padRight 25 (endpoint u.source u.sourcePort) ++ " dst".toList := by
    intro u hu
    exact List.not_mem_append (not_mem_padRight (by decide) (hu.source '=' (by decide))) (by decide)
  -- The columns are cut off one by one, each at the last equals sign.
  rw [append_fiveTuple, append_fiveTuple] at h
  obtain ⟨h, hprotocol⟩ := cut_last (hprotocolSign hv) (hprotocolSign hw) h
  obtain ⟨h, hdestination⟩ := cut_last (hdestinationSign hv) (hdestinationSign hw) h
  obtain ⟨-, hsource⟩ := cut_last (hsourceSign hv) (hsourceSign hw) h
  refine ⟨?_, ?_, ?_⟩
  · exact padRight_injective (hv.source ' ' (by decide)) (hw.source ' ' (by decide))
      (List.append_cancel_right hsource)
  · exact padRight_injective (hv.destination ' ' (by decide)) (hw.destination ' ' (by decide))
      (List.append_cancel_right hdestination)
  · exact String.toList_injective
      (padRight_injective (hv.protocol ' ' (by decide)) (hw.protocol ' ' (by decide)) hprotocol)

/-- The columns tell the endpoints, as far as they show them, and the
protocol. -/
theorem fiveTuple_ofRecord_eq_iff (r s : Record) :
    (ofRecord r).fiveTuple = (ofRecord s).fiveTuple ↔
      (r.sourceAddress = s.sourceAddress ∧
        (r.sourceAddress.isSome → r.ports.source = s.ports.source)) ∧
      (r.destinationAddress = s.destinationAddress ∧
        (r.destinationAddress.isSome → r.ports.destination = s.ports.destination)) ∧
      r.protocol = s.protocol := by
  constructor
  · intro h
    -- The columns stand alone here, with nothing before them.
    have hwhole : [] ++ (ofRecord r).fiveTuple = [] ++ (ofRecord s).fiveTuple :=
      congrArg ([] ++ ·) h
    obtain ⟨hsource, hdestination, hprotocol⟩ :=
      columns_of_append (columned_ofRecord r) (columned_ofRecord s) hwhole
    exact ⟨endpoint_eq_iff.mp hsource, endpoint_eq_iff.mp hdestination,
      protocol_injective hprotocol⟩
  · rintro ⟨hsource, hdestination, hprotocol⟩
    have hs : endpoint (ofRecord r).source (ofRecord r).sourcePort
        = endpoint (ofRecord s).source (ofRecord s).sourcePort := endpoint_eq_iff.mpr hsource
    have hd : endpoint (ofRecord r).destination (ofRecord r).destinationPort
        = endpoint (ofRecord s).destination (ofRecord s).destinationPort :=
      endpoint_eq_iff.mpr hdestination
    have hp : (ofRecord r).protocol = (ofRecord s).protocol := by
      simp only [ofRecord, hprotocol]
    delta fiveTuple
    rw [hs, hd, hp]

/-- What stands before the columns. -/
def beforeColumns (v : View) : List Char :=
  "trace=".toList ++ hex 8 v.traceId.toNat
    ++ ' ' :: v.family.toList ++ ' ' :: v.table.toList ++ ' ' :: v.chain.toList
    ++ " handle=".toList ++ decimal v.handle.toNat
    ++ " verdict=".toList ++ v.verdict.toList
    ++ v.jumpText
    ++ " iif=".toList ++ dashed v.ingress
    ++ " oif=".toList ++ dashed v.egress ++ [' ']

/-- After the columns, and after the last equals sign, stands the
length. -/
theorem textBody_eq (v : View) :
    v.textBody
      = (v.beforeColumns ++ v.fiveTuple ++ " len".toList) ++ '=' :: decimal v.length.toNat := by
  have hlength : " len=".toList = " len".toList ++ ['='] := rfl
  delta textBody beforeColumns
  simp only [hlength, List.append_assoc, List.cons_append, List.nil_append]

/-- Two records with the same line, but for count and time, have the same
columns: the names before the columns may hold what they like. -/
theorem fiveTuple_of_textBody {r s : Record} (h : (ofRecord r).textBody = (ofRecord s).textBody) :
    (ofRecord r).fiveTuple = (ofRecord s).fiveTuple := by
  have hdigits : ∀ n, '=' ∉ decimal n := fun n => (isWord_decimal n).not_mem (by decide)
  rw [textBody_eq, textBody_eq] at h
  -- The length is cut off at the last equals sign.
  obtain ⟨hline, -⟩ := cut_last (hdigits _) (hdigits _) h
  obtain ⟨hsource, hdestination, hprotocol⟩ :=
    columns_of_append (columned_ofRecord r) (columned_ofRecord s) (List.append_cancel_right hline)
  delta fiveTuple
  rw [hsource, hdestination, hprotocol]

end View

end RuleTrace
