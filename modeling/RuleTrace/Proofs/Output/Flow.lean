import RuleTrace.Proofs.Output.Runs
import RuleTrace.Proofs.View.Text

/-!
# `RuleTrace.Proofs.Output.Flow`: which records the text format folds

A flow is told by two addresses, two ports and a protocol. The text
format folds records by the columns of their lines, so it folds two
records if and only if the columns show the same of their flows
(`SameColumns`). The columns show all of a flow but the port of an end
without an address, for which there is a dash.

An address counts as absent when it is zero. So the columns tell the flow
of a record if and only if neither of its addresses is the unspecified
one (`text_keys_tell_addressed_flows`). Records from the unspecified
address are folded also when they come from different ports, and one line
shows the sum of their counts (`ports_of_unspecified_folded`).
-/

set_option autoImplicit false

namespace RuleTrace

/-- What tells a flow. -/
structure Flow where
  addresses : Endpoints (Option Address)
  ports : Endpoints UInt16
  protocol : UInt8
  deriving DecidableEq, Repr

namespace Record

/-- The flow of a record. -/
def flow (r : Record) : Flow where
  addresses := ⟨r.sourceAddress, r.destinationAddress⟩
  ports := r.ports
  protocol := r.protocol

/-- The columns of two records show the same: their flows agree, but for
the port of an end without an address. -/
structure SameColumns (r s : Record) : Prop where
  source : r.sourceAddress = s.sourceAddress
  destination : r.destinationAddress = s.destinationAddress
  sourcePort : r.sourceAddress.isSome → r.ports.source = s.ports.source
  destinationPort : r.destinationAddress.isSome → r.ports.destination = s.ports.destination
  protocol : r.protocol = s.protocol

/-- What the columns leave open are the ports that they do not show. -/
theorem SameColumns.flow_eq_iff {r s : Record} (h : r.SameColumns s) :
    r.flow = s.flow ↔
      (r.sourceAddress = none → r.ports.source = s.ports.source) ∧
      (r.destinationAddress = none → r.ports.destination = s.ports.destination) := by
  obtain ⟨hsource, hdestination, hsourcePort, hdestinationPort, hprotocol⟩ := h
  -- A port is shown beside an address only, so two that are shown are equal.
  have hport : ∀ {a : Option Address} {p q : UInt16}, (a.isSome → p = q) →
      (p = q ↔ (a = none → p = q)) := by
    intro a p q hshown
    cases a with
    | none => simp
    | some a => simp [hshown rfl]
  have hflow : r.flow = s.flow ↔ r.ports = s.ports := by
    simp [flow, hsource, hdestination, hprotocol]
  have hports : r.ports = s.ports ↔
      r.ports.source = s.ports.source ∧ r.ports.destination = s.ports.destination := by
    cases r.ports
    cases s.ports
    simp
  rw [hflow, hports]
  exact and_congr (hport hsourcePort) (hport hdestinationPort)

/-- With both addresses the columns leave nothing open. -/
theorem SameColumns.flow_eq {r s : Record} (h : r.SameColumns s)
    (hsource : r.sourceAddress.isSome) (hdestination : r.destinationAddress.isSome) :
    r.flow = s.flow := by
  refine h.flow_eq_iff.mpr ⟨?_, ?_⟩
  · intro _
    exact h.sourcePort hsource
  · intro _
    exact h.destinationPort hdestination

/-- A record without a source address has the columns of one with another
port, and so has a record without a destination address. -/
theorem exists_sameColumns_of_absent {r : Record}
    (h : r.sourceAddress = none ∨ r.destinationAddress = none) :
    ∃ s, r.SameColumns s ∧ r.flow ≠ s.flow := by
  -- Words wrap, and still no word is followed by itself.
  have hnext : ∀ p : UInt16, p ≠ p + 1 := by
    intro p
    simp
  rcases h with hsource | hdestination
  · refine ⟨{ r with ports := ⟨r.ports.source + 1, r.ports.destination⟩ },
      ⟨rfl, rfl, ?_, fun _ => rfl, rfl⟩, ?_⟩
    · rw [hsource]
      intro hsome
      cases hsome
    · intro hflow
      exact hnext _ (congrArg (fun f => f.ports.source) hflow)
  · refine ⟨{ r with ports := ⟨r.ports.source, r.ports.destination + 1⟩ },
      ⟨rfl, rfl, fun _ => rfl, ?_, rfl⟩, ?_⟩
    · rw [hdestination]
      intro hsome
      cases hsome
    · intro hflow
      exact hnext _ (congrArg (fun f => f.ports.destination) hflow)

end Record

namespace Printer

/-- The keys of the text format are the columns. -/
theorem keyOf_text_eq_iff (r s : Record) :
    keyOf .text r = keyOf .text s ↔ r.SameColumns s := by
  show (View.ofRecord r).fiveTuple = (View.ofRecord s).fiveTuple ↔ _
  rw [View.fiveTuple_ofRecord_eq_iff]
  constructor
  · rintro ⟨⟨hsource, hsourcePort⟩, ⟨hdestination, hdestinationPort⟩, hprotocol⟩
    exact ⟨hsource, hdestination, hsourcePort, hdestinationPort, hprotocol⟩
  · rintro ⟨hsource, hdestination, hsourcePort, hdestinationPort, hprotocol⟩
    exact ⟨⟨hsource, hsourcePort⟩, ⟨hdestination, hdestinationPort⟩, hprotocol⟩

/-- Two records have the same key in the text format if and only if their
columns show the same. Then they are of one flow if and only if the ports
agree that are not shown, those of an end without an address. So a key
tells the flow of a record if and only if the record has both addresses.

Any records written in the text format and flushes in between, in any
order, by a printer that folds: in the end the lines are those of the
runs, and in each run the columns of all records show the same. The line
of a run whose records have both addresses adds up the counts of one
flow. -/
theorem text_keys_tell_addressed_flows (turns : List Turn) (last : UInt64 → String) :
    (∀ r s, keyOf .text r = keyOf .text s ↔ r.SameColumns s) ∧
    (∀ r s, keyOf .text r = keyOf .text s →
      (r.flow = s.flow ↔
        (r.sourceAddress = none → r.ports.source = s.ports.source) ∧
        (r.destinationAddress = none → r.ports.destination = s.ports.destination))) ∧
    (∀ r, (∀ s, keyOf .text r = keyOf .text s → r.flow = s.flow) ↔
      r.sourceAddress.isSome ∧ r.destinationAddress.isSome) ∧
    (let p := (new .text true .empty).afterAll turns
      let c := cut (turns.map Turn.call)
      ShowRuns .text (turns.map Turn.stamp ++ [last]) (c.all .text) (p.flush last).2.sink.lines ∧
      ∀ run ∈ c.all .text, ∀ r ∈ run, ∀ s ∈ run, r.SameColumns s ∧
        (r.sourceAddress.isSome → r.destinationAddress.isSome → r.flow = s.flow)) := by
  refine ⟨keyOf_text_eq_iff, ?_, ?_, ?_⟩
  · intro r s hkey
    exact ((keyOf_text_eq_iff r s).mp hkey).flow_eq_iff
  · intro r
    constructor
    · intro htells
      -- With an address missing, another port would have the same key.
      have hpresent : ∀ a : Option Address, a ≠ none → a.isSome := fun a ha =>
        Option.isSome_iff_ne_none.mpr ha
      refine ⟨hpresent _ ?_, hpresent _ ?_⟩
      · intro hsource
        obtain ⟨s, hcolumns, hflow⟩ := Record.exists_sameColumns_of_absent (.inl hsource)
        exact hflow (htells s ((keyOf_text_eq_iff r s).mpr hcolumns))
      · intro hdestination
        obtain ⟨s, hcolumns, hflow⟩ := Record.exists_sameColumns_of_absent (.inr hdestination)
        exact hflow (htells s ((keyOf_text_eq_iff r s).mpr hcolumns))
    · rintro ⟨hsource, hdestination⟩ s hkey
      exact ((keyOf_text_eq_iff r s).mp hkey).flow_eq hsource hdestination
  · intro p c
    have htells : p.Tells .text (turns.map Turn.stamp) c := tells_afterAll .text turns
    refine ⟨htells.lines_flush last, ?_⟩
    intro run hrun r hr s hs
    obtain ⟨piece, hpiece⟩ := Cut.exists_piece hrun
    have hcolumns := (keyOf_text_eq_iff r s).mp (keyOf_eq_of_mem_runs hpiece hr hs)
    exact ⟨hcolumns, hcolumns.flow_eq⟩

/-- Two datagrams from the unspecified address to all hosts, which come
from different ports, are of two flows. They have one key, and one line
shows both of them. -/
theorem ports_of_unspecified_folded :
    let stamp : UInt64 → String := fun _ => ""
    let datagram (port : UInt16) : Record := { (default : Record) with
      ipv4 := ⟨.zero 4, ⟨[255, 255, 255, 255], rfl⟩⟩
      ports := ⟨port, 67⟩
      protocol := 17
      count := 1 }
    let p := (new .text true .empty).afterAll
      [⟨.write (datagram 68), stamp⟩, ⟨.write (datagram 69), stamp⟩, ⟨.flush, stamp⟩]
    (datagram 68).flow ≠ (datagram 69).flow ∧
      keyOf .text (datagram 68) = keyOf .text (datagram 69) ∧
      p.sink.lines.length = 1 ∧ shownTotal? .text p.sink.lines = some 2 := by
  refine ⟨by decide, rfl, rfl, rfl⟩

end Printer

end RuleTrace
