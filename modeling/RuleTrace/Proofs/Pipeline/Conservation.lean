import RuleTrace.Proofs.Pipeline.Operation

/-!
# `RuleTrace.Proofs.Pipeline.Conservation`: no match is lost or counted twice

A record stands for the notifications of one id that were merged into
it; its count says how many. `Pipeline.Traffic` lists what passes the
borders of a pipeline: the notifications that the sampler admits, the
records that the reader gets, and those that the lanes refuse. All
other records are in the slots or in the lanes, and `Pipeline.held`
adds up what they stand for.

`held_after` is the law for one operation: what is held and what comes
in is what is held afterwards and what goes out. It is proved for any
selection of ids at once (`credit keep`), since all ids together bound
the count of each record, and one id alone is what is to be known at
the end. A count could only saturate after as many notifications as
there are words. The law itself excludes that: no record stands for
more notifications than came in.
-/

set_option autoImplicit false

namespace RuleTrace

/-! ### A fresh record stands for one notification -/

namespace Record

/-- Addresses do not tell the id. -/
@[simp] theorem id_withNetwork (r : Record) (h : NetworkHeader) : (r.withNetwork h).id = r.id := by
  rw [withNetwork]
  cases h.addresses <;> rfl

/-- Addresses do not tell the count. -/
@[simp] theorem count_withNetwork (r : Record) (h : NetworkHeader) :
    (r.withNetwork h).count = r.count := by
  rw [withNetwork]
  cases h.addresses <;> rfl

/-- Headers that are read from a packet leave the id of the record. -/
theorem id_withHeaders (r : Record) (h : Headers) : (r.withHeaders h).id = r.id := by
  rw [withHeaders]
  cases h.link <;> cases h.network <;> cases h.ports <;> simp

/-- Headers that are read from a packet leave the count of the record. -/
theorem count_withHeaders (r : Record) (h : Headers) : (r.withHeaders h).count = r.count := by
  rw [withHeaders]
  cases h.link <;> cases h.network <;> cases h.ports <;> simp

end Record

/-- The record of a notification stands for it alone. -/
theorem Notification.credit_toRecord (keep : UInt32 → Bool) (n : Notification) (now : UInt64) :
    credit keep (n.toRecord now) = if keep n.id then 1 else 0 := by
  have hid : (n.toRecord now).id = n.id := Record.id_withHeaders _ _
  have hcount : (n.toRecord now).count = 1 := Record.count_withHeaders _ _
  rw [credit, hid, hcount]
  rfl

/-! ### What passes the borders of a pipeline -/

/-- What comes into a pipeline and what goes out of it. -/
structure Traffic where
  /-- the rule matches that the sampler admits -/
  admitted : List Notification
  /-- the records that the reader gets -/
  delivered : List Record
  /-- the records that the lanes do not take -/
  refused : List Record

namespace Traffic

/-- No traffic. -/
def empty : Traffic := ⟨[], [], []⟩

/-- Traffic that follows other traffic. -/
def append (t u : Traffic) : Traffic :=
  ⟨t.admitted ++ u.admitted, t.delivered ++ u.delivered, t.refused ++ u.refused⟩

end Traffic

namespace Pipeline

/-- Whether a notification is a rule match that the sampler admits. -/
def admits (p : Pipeline) (n : Notification) : Bool :=
  n.eventKind = EventKind.rule.code && (p.sampler.next p.settings.rate).1

/-- The traffic of one operation. -/
def traffic (p : Pipeline) : Operation → Traffic
  | .trace core n now =>
    { admitted := if p.admits n then [n] else []
      delivered := []
      refused := if (p.trace core n now).1 = .dropped then [n.toRecord now] else [] }
  | .flushCore core => ⟨[], [], p.refusedInPass core⟩
  | .drainAll => ⟨[], [], p.refusedInPasses p.passes⟩
  | .tryReceive => ⟨[], (p.tryReceive?.map Prod.fst).toList, []⟩
  | .poll =>
    match p.poll with
    | .ready (r, _) => ⟨[], [r], []⟩
    | _ => .empty
  | .receiveAll => ⟨[], p.receiveAll.1, []⟩
  | .update _ _ => .empty
  | .close => .empty

/-- The traffic of operations, one after another. -/
def trafficOf : Pipeline → List Operation → Traffic
  | _, [] => .empty
  | p, op :: ops => (p.traffic op).append (trafficOf (p.after op) ops)

/-- How many notifications of the selected ids are held as records. -/
def held (keep : UInt32 → Bool) (p : Pipeline) : Nat :=
  tally (credit keep) p.waiting + tally (credit keep) p.stored

/-- How many notifications of all ids are held as records. -/
abbrev heldInAll (p : Pipeline) : Nat := p.held fun _ => true

variable (keep : UInt32 → Bool)

/-- Counting moves no record. -/
@[simp] theorem held_bumps (p : Pipeline) (ks : List Counter) :
    (p.bumps ks).held keep = p.held keep := by
  rw [held, held, waiting_bumps, stored_bumps]

/-- The count of a stored record is at most what is held. -/
theorem count_le_held {p : Pipeline} {r : Record} (h : r ∈ p.stored) :
    r.count.toNat ≤ p.heldInAll := by
  have hcredit : credit (fun _ => true) r = r.count.toNat := if_pos rfl
  have hmem := le_tally_of_mem (credit fun _ => true) h
  rw [heldInAll, held]
  omega

/-! ### One notification -/

/-- A record that goes to the output waits there, or is refused. -/
theorem held_emitDirect (p : Pipeline) (core : Nat) (r : Record) :
    p.held keep + credit keep r
      = (p.emitDirect core r).2.held keep
        + tally (credit keep) (if (p.emitDirect core r).1 = .dropped then [r] else []) := by
  rcases p.emitDirect_cases core r with ⟨d, hd, he⟩ | he
  · -- The record waits behind those that waited before.
    have htally := Channel.tally_waiting_publish (credit keep) hd
    rw [he]
    show _ = tally (credit keep) d.waiting + tally (credit keep) p.stored + 0
    rw [htally, held, waiting]
    omega
  · rw [he]
    rfl

/-- A record that stands for one notification is held, or refused. -/
theorem held_deliver {p : Pipeline} (h : p.Sound) (core : Nat) {r : Record}
    (hcredit : credit keep r = if keep r.id then 1 else 0)
    (hfits : p.heldInAll + 1 < UInt64.size) :
    p.held keep + credit keep r
      = (p.deliver core r).2.held keep
        + tally (credit keep) (if (p.deliver core r).1 = .dropped then [r] else []) := by
  rcases deliver_cases h core r with
    ⟨b, old, he, -, hold, hid, htally⟩ | ⟨b, he, -, htally⟩ | ⟨ks, -, he⟩
  · have hstored := htally (credit keep)
    have hcounting : credit keep (old.counting 1) = credit keep old + credit keep r := by
      -- The count of `old` is part of what is held, so one more still fits in 64 bits.
      have hcount := count_le_held hold
      by_cases hkeep : keep r.id
      · rw [hcredit, if_pos hkeep, credit_counting (hid ▸ hkeep) (by omega)]
      · rw [hcredit, if_neg hkeep, credit_counting_of_not (hid ▸ hkeep)]
        rfl
    rw [he]
    show _ = tally (credit keep) p.waiting + tally (credit keep) b.stored + 0
    rw [held]
    omega
  · have hstored := htally (credit keep)
    rw [he]
    show _ = tally (credit keep) p.waiting + tally (credit keep) b.stored + 0
    rw [held]
    omega
  · rw [he, ← held_bumps keep p ks]
    exact held_emitDirect keep (p.bumps ks) core r

/-- A notification that is admitted is held as a record, or refused. -/
theorem held_trace {p : Pipeline} (h : p.Sound) (core : Nat) (n : Notification) (now : UInt64)
    (hfits : p.heldInAll + (p.traffic (.trace core n now)).admitted.length < UInt64.size) :
    p.held keep + (p.traffic (.trace core n now)).admitted.countP (fun n => keep n.id)
      = (p.trace core n now).2.held keep
        + tally (credit keep) (p.traffic (.trace core n now)).refused := by
  have hid : (n.toRecord now).id = n.id := Record.id_withHeaders _ _
  have hcredit := n.credit_toRecord keep now
  rw [traffic, admits] at hfits ⊢
  rw [trace_eq]
  -- What is no match is filtered out, and a match that is not kept goes no further.
  by_cases hkind : n.eventKind = EventKind.rule.code
  · rw [if_neg (not_not_intro hkind)]
    cases hkept : (p.sampler.next p.settings.rate).1 with
    | true =>
      simp only [hkept, hkind, decide_true, Bool.and_self, if_true] at hfits ⊢
      rw [List.countP_singleton, ← hcredit]
      exact held_deliver keep (p := p.sampled) h core (by rw [hcredit, hid]) hfits
    | false =>
      simp only [Bool.and_false, Bool.false_eq_true, if_false]
      rfl
  · rw [if_pos hkind, decide_eq_false hkind, Bool.false_and]
    rfl

/-! ### Flush passes -/

/-- The records of a pass go from the slot to the lanes, or are
refused. -/
theorem held_flushCore {p : Pipeline} (h : p.Sound) (core : Nat) :
    p.held keep = (p.flushCore core).2.held keep + tally (credit keep) (p.refusedInPass core) := by
  rcases flushCore_cases h core with ⟨ks, -, he, hrefused⟩ | ⟨rs, b, he, -, hrefused, htally⟩
  · rw [he, hrefused, held_bumps]
    rfl
  · have hstored := htally (credit keep)
    have hwaiting := Channel.tally_waiting_publishAll (credit keep) core p.outlet.channel rs
    rw [← Outlet.channel_flushed] at hwaiting
    rw [he, hrefused]
    show tally (credit keep) p.outlet.channel.waiting + tally (credit keep) p.stored
      = tally (credit keep) (rs.foldl (Outlet.publishFlushed core) p.outlet).channel.waiting
        + tally (credit keep) b.stored + _
    omega

/-- Passes one after another move records from the slots to the lanes, or
have them refused. -/
theorem held_flushAll {p : Pipeline} (h : p.Sound) (cores : List Nat) :
    p.held keep
      = (p.flushAll cores).held keep + tally (credit keep) (p.refusedInPasses cores) := by
  induction cores generalizing p with
  | nil => rfl
  | cons core cores ih =>
    have hpass := held_flushCore keep h core
    have hrest := ih (h.flushCore core)
    rw [refusedInPasses, tally_append]
    show p.held keep = ((p.flushCore core).2.flushAll cores).held keep + _
    omega

/-! ### Every operation -/

/-- Records that leave the lanes are held no more. -/
theorem held_withChannel {p : Pipeline} {c : Channel} (rs : List Record)
    (h : tally (credit keep) p.waiting = tally (credit keep) rs + tally (credit keep) c.waiting) :
    p.held keep = (p.withChannel c).held keep + tally (credit keep) rs := by
  show _ = tally (credit keep) c.waiting + tally (credit keep) p.stored + _
  rw [held]
  omega

/-- The law for one operation: what is held and what comes in is what is
held afterwards and what goes out. -/
theorem held_after {p : Pipeline} (h : p.Sound) (op : Operation)
    (hfits : p.heldInAll + (p.traffic op).admitted.length < UInt64.size) :
    p.held keep + (p.traffic op).admitted.countP (fun n => keep n.id)
      = (p.after op).held keep + tally (credit keep) (p.traffic op).delivered
        + tally (credit keep) (p.traffic op).refused := by
  cases op with
  | trace core n now => exact held_trace keep h core n now hfits
  | flushCore core => exact held_flushCore keep h core
  | drainAll =>
    -- Draining is passes, and passes obey the law.
    rw [after, drainAll_eq_flushAll]
    exact held_flushAll keep h p.passes
  -- The settings hold no records.
  | update rate interval => rfl
  | tryReceive =>
    rw [after, traffic, tryReceive?]
    cases hreceive : p.outlet.channel.tryReceive? with
    | none => rfl
    | some found =>
      have hwaiting := Channel.tally_waiting_tryReceive? (credit keep) hreceive
      exact held_withChannel keep [found.1] hwaiting
  | poll =>
    rw [after, traffic, poll]
    cases hpoll : p.outlet.channel.poll with
    | ready found =>
      have hwaiting := Channel.tally_waiting_poll (credit keep) hpoll
      exact held_withChannel keep [found.1] hwaiting
    | pending => rfl
    | ended => rfl
  | receiveAll =>
    exact held_withChannel keep _ (Channel.tally_waiting_receiveUpTo (credit keep) _ _)
  | close =>
    have hwaiting := congrArg (tally (credit keep)) p.outlet.channel.waiting_close
    exact held_withChannel keep [] (hwaiting.symm.trans (Nat.zero_add _).symm)

/-- The law for a run. The law for all ids together keeps every count
below the greatest word along the way. -/
theorem held_afterAll {p : Pipeline} (h : p.Sound) (ops : List Operation)
    (hfits : p.heldInAll + (p.trafficOf ops).admitted.length < UInt64.size) :
    p.held keep + (p.trafficOf ops).admitted.countP (fun n => keep n.id)
      = (p.afterAll ops).held keep + tally (credit keep) (p.trafficOf ops).delivered
        + tally (credit keep) (p.trafficOf ops).refused := by
  induction ops generalizing p with
  | nil => rfl
  | cons op ops ih =>
    rw [trafficOf, Traffic.append] at hfits ⊢
    dsimp only at hfits ⊢
    rw [List.length_append] at hfits
    have hstep := held_after keep h op (by omega)
    -- What is held in all after the operation is bounded by the law for all ids.
    have hall : p.heldInAll + _ = (p.after op).heldInAll + _ + _ :=
      held_after (fun _ => true) h op (by omega)
    rw [List.countP_eq_length.mpr fun _ _ => rfl] at hall
    have hrest := ih (h.after op) (by omega)
    rw [List.countP_append, tally_append, tally_append]
    show _ = ((p.after op).afterAll ops).held keep + _ + _
    omega

/-- A new pipeline holds nothing. -/
theorem held_new (c : Config) (cores : Nat) : (new c cores).held keep = 0 := by
  rw [held, waiting_new, stored_new]
  rfl

/-- Whatever is done with a pipeline from its start on: the matches that
were admitted are as many as the records stand for that are held, were
delivered or were refused. -/
theorem length_admitted_eq (c : Config) (cores : Nat) (ops : List Operation)
    (hfits : ((new c cores).trafficOf ops).admitted.length < UInt64.size) :
    ((new c cores).trafficOf ops).admitted.length
      = ((new c cores).afterAll ops).heldInAll + counted ((new c cores).trafficOf ops).delivered
        + counted ((new c cores).trafficOf ops).refused := by
  have hlaw := held_afterAll (fun _ => true) (sound_new c cores) ops
    (by rwa [heldInAll, held_new, Nat.zero_add])
  rwa [held_new, Nat.zero_add, List.countP_eq_length.mpr fun _ _ => rfl, tally_credit_all,
    tally_credit_all] at hlaw

/-- Whatever is done with a pipeline from its start on, and while fewer
than `2 ^ 64` matches are admitted: the admitted matches with an id are
exactly those that the records with this id stand for, be these
delivered, waiting, stored or refused. -/
theorem matches_credited_once (c : Config) (cores : Nat) (ops : List Operation) (id : UInt32)
    (hfits : ((new c cores).trafficOf ops).admitted.length < UInt64.size) :
    let p := (new c cores).afterAll ops
    let t := (new c cores).trafficOf ops
    t.admitted.countP (fun n => n.id = id)
      = counted
        ((t.delivered ++ p.waiting ++ p.stored ++ t.refused).filter fun r => r.id = id) := by
  intro p t
  have hlaw : _ + t.admitted.countP _
      = p.held _ + tally _ t.delivered + tally _ t.refused :=
    held_afterAll (fun i => i = id) (sound_new c cores) ops
      (by rwa [heldInAll, held_new, Nat.zero_add])
  rw [held_new, Nat.zero_add] at hlaw
  rw [counted_filter fun i => i = id, tally_append, tally_append, tally_append, hlaw, held]
  omega

/-- Three matches of one packet on a core: the first two are merged and
flushed, the reader gets their record, and the third waits. -/
theorem matches_credited_once_merged :
    let n : Notification := { (default : Notification) with eventKind := EventKind.rule.code }
    let start := new Config.standard 2
    let ops : List Operation :=
      [.trace 1 n 5, .trace 1 n 6, .flushCore 1, .trace 1 n 7, .drainAll, .tryReceive]
    (start.trafficOf ops).admitted.length < UInt64.size ∧
    (start.trafficOf ops).admitted.countP (fun m => m.id = n.id) = 3 ∧
    counted (((start.trafficOf ops).delivered ++ (start.afterAll ops).waiting
      ++ (start.afterAll ops).stored ++ (start.trafficOf ops).refused).filter
        fun r => r.id = n.id) = 3 := by
  intro n start ops
  have hfits : (start.trafficOf ops).admitted.length < UInt64.size := by decide
  have hcount : (start.trafficOf ops).admitted.countP (fun m => m.id = n.id) = 3 := by decide
  exact ⟨hfits, hcount, (matches_credited_once Config.standard 2 ops n.id hfits).symm.trans hcount⟩

end Pipeline

end RuleTrace
