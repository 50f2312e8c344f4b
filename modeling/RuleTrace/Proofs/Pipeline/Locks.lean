import RuleTrace.Proofs.Aggregation.Locks
import RuleTrace.Proofs.Pipeline.Conservation
import RuleTrace.Proofs.Pipeline.Drain

/-!
# `RuleTrace.Proofs.Pipeline.Locks`: a pipeline whose locks others hold

Whoever uses a pipeline may find the locks of some cores held by others.
A notification on such a core goes straight to the output, and a pass
over it does nothing (`trace_withCoreLocks`, `flushCore_withCoreLocks`).
Apart from that it makes no difference which locks are held.

`Accounts` says of a pipeline, of what passed its borders, and of the
pipeline afterwards that no record was lost. This is the law of
`RuleTrace.Proofs.Pipeline.Conservation` for all ids together, in a form
that one step hands on to the next. It is true of every operation
(`accounts_after`), and of those that meet held locks.
-/

set_option autoImplicit false

namespace RuleTrace

/-- A pass fails because of the lock and only counts that, or it does
what it does while all locks are free. -/
theorem Outlet.flushCore_withLocks {storeCapacity queueCapacity : Nat} {a : Aggregation}
    (h : a.Sound storeCapacity queueCapacity) (held : Nat → Bool) (o : Outlet)
    (batch core : Nat) :
    (flushCore (a.withLocks held) o batch core
        = ((flushCore a o batch core).1, (flushCore a o batch core).2.1.withLocks held,
          (flushCore a o batch core).2.2) ∧
      refusedBy (a.withLocks held) o batch core = refusedBy a o batch core) ∨
    (flushCore (a.withLocks held) o batch core
        = (default, a.withLocks held, (o.bump .readWait).bump .lockContended) ∧
      refusedBy (a.withLocks held) o batch core = []) := by
  rw [flushCore, flushCore, refusedBy, refusedBy]
  rcases h.drain_withLocks held core batch with he | he
  · rw [he]
    refine .inl ⟨?_, rfl⟩
    rcases a.drain core batch with ⟨_ | _, b⟩ <;> rfl
  · rw [he]
    exact .inr ⟨rfl, rfl⟩

namespace Pipeline

/-- Only the last state of the locks matters. -/
theorem withCoreLocks_withCoreLocks (p : Pipeline) (held others : Nat → Bool) :
    (p.withCoreLocks held).withCoreLocks others = p.withCoreLocks others := by
  cases hslots : p.slots with
  | none => simp only [withCoreLocks, hslots, Option.map_none]
  | some a => simp only [withCoreLocks, hslots, Option.map_some, Aggregation.withLocks_withLocks]

/-- In a sound pipeline all locks are free. -/
theorem Sound.withCoreLocks_free {p : Pipeline} (h : p.Sound) :
    p.withCoreLocks (fun _ => false) = p := by
  have hslots : p.slots.map (fun a => a.withLocks fun _ => false) = p.slots := by
    cases hslots : p.slots with
    | none => rfl
    | some a =>
      obtain ⟨storeCapacity, queueCapacity, ha⟩ := h a hslots
      rw [Option.map_some, ha.withLocks_free]
  rw [withCoreLocks, hslots]

/-- Whoever gives back all locks of a sound pipeline leaves it as it
was. -/
theorem Sound.withCoreLocks_back {p : Pipeline} (h : p.Sound) (held : Nat → Bool) :
    (p.withCoreLocks held).withCoreLocks (fun _ => false) = p := by
  rw [withCoreLocks_withCoreLocks, h.withCoreLocks_free]

/-- The locks have no part in what is stored. -/
@[simp] theorem stored_withCoreLocks (p : Pipeline) (held : Nat → Bool) :
    (p.withCoreLocks held).stored = p.stored := by
  rw [stored, stored, withCoreLocks]
  cases p.slots with
  | none => rfl
  | some a => exact a.stored_withLocks held

/-! ### Operations that meet held locks -/

/-- The way straight to the output passes no lock. -/
theorem emitDirect_withCoreLocks (p : Pipeline) (held : Nat → Bool) (core : Nat) (r : Record) :
    (p.withCoreLocks held).emitDirect core r
      = ((p.emitDirect core r).1, (p.emitDirect core r).2.withCoreLocks held) := by
  rw [emitDirect, emitDirect, show (p.withCoreLocks held).outlet = p.outlet from rfl]
  rcases p.outlet.publish core r with ⟨_ | _, o⟩ <;> rfl

/-- Nor does what follows once the slot has answered. -/
theorem afterAbsorb_withCoreLocks (p : Pipeline) (held : Nat → Bool) (core : Nat)
    (result : Absorbed) :
    (p.withCoreLocks held).afterAbsorb core result
      = ((p.afterAbsorb core result).1, (p.afterAbsorb core result).2.withCoreLocks held) := by
  cases result with
  | merged count => rfl
  | queued => rfl
  | fallback reason r =>
    cases reason with
    | contended =>
      exact emitDirect_withCoreLocks ((p.bump .writeWait).bump .lockContended) held core r
    | noSlot => exact emitDirect_withCoreLocks (p.bump .writeWait) held core r
    | storeFull => exact emitDirect_withCoreLocks (p.bump .writeWait) held core r
    | queueFull => exact emitDirect_withCoreLocks (p.bump .writeWait) held core r

/-- A record goes straight to the output because of the lock, or it is
delivered as while all locks are free. -/
theorem deliver_withCoreLocks {p : Pipeline} (h : p.Sound) (held : Nat → Bool) (core : Nat)
    (r : Record) :
    (p.withCoreLocks held).deliver core r
      = ((p.deliver core r).1, (p.deliver core r).2.withCoreLocks held) ∨
    (p.withCoreLocks held).deliver core r
      = (((p.bumps [.writeWait, .lockContended]).emitDirect core r).1,
        ((p.bumps [.writeWait, .lockContended]).emitDirect core r).2.withCoreLocks held) := by
  cases hslots : p.slots with
  | none =>
    have hlocked : (p.withCoreLocks held).slots = none := congrArg (Option.map _) hslots
    refine .inl ?_
    rw [deliver, deliver, hslots, hlocked]
    exact emitDirect_withCoreLocks p held core r
  | some a =>
    obtain ⟨storeCapacity, queueCapacity, ha⟩ := h a hslots
    have hlocked : (p.withCoreLocks held).slots = some (a.withLocks held) :=
      congrArg (Option.map _) hslots
    by_cases henabled : p.settings.enabled
    · have hdeliver : p.deliver core r
          = { p with slots := some (a.absorb core r).2 }.afterAbsorb core (a.absorb core r).1 := by
        rw [deliver, hslots]
        simp only [henabled, if_true]
      have hdelivered : (p.withCoreLocks held).deliver core r
          = { p with slots := some ((a.withLocks held).absorb core r).2 }.afterAbsorb core
              ((a.withLocks held).absorb core r).1 := by
        rw [deliver, hlocked]
        simp only [show (p.withCoreLocks held).settings = p.settings from rfl, henabled, if_true]
        rfl
      rw [hdelivered, hdeliver]
      rcases ha.absorb_withLocks held core r with he | he
      · rw [he]
        exact .inl (afterAbsorb_withCoreLocks { p with slots := some (a.absorb core r).2 } ..)
      · -- Contention leaves the slots as they were, and the waits tell of it.
        have hsame : { p with slots := some (a.withLocks held) } = p.withCoreLocks held := by
          rw [← hlocked]
          rfl
        rw [he, hsame]
        exact .inr (afterAbsorb_withCoreLocks p held core (.fallback .contended r))
    · refine .inl ?_
      rw [deliver, deliver, hslots, hlocked]
      simp only [show (p.withCoreLocks held).settings = p.settings from rfl, henabled,
        Bool.false_eq_true, if_false]
      exact emitDirect_withCoreLocks p held core r

/-- A notification whose core is locked goes straight to the output, or
it is handled as while all locks are free. -/
theorem trace_withCoreLocks {p : Pipeline} (h : p.Sound) (held : Nat → Bool) (core : Nat)
    (n : Notification) (now : UInt64) :
    (p.withCoreLocks held).trace core n now
      = ((p.trace core n now).1, (p.trace core n now).2.withCoreLocks held) ∨
    (p.admits n = true ∧
      let q := p.sampled.bumps [.writeWait, .lockContended]
      (p.withCoreLocks held).trace core n now
        = ((q.emitDirect core (n.toRecord now)).1,
          (q.emitDirect core (n.toRecord now)).2.withCoreLocks held)) := by
  have hsampled : p.sampled.Sound := h
  rw [trace_eq, trace_eq, admits,
    show (p.withCoreLocks held).sampled = p.sampled.withCoreLocks held from rfl,
    show (p.withCoreLocks held).sampler = p.sampler from rfl,
    show (p.withCoreLocks held).settings = p.settings from rfl]
  by_cases hkind : n.eventKind = EventKind.rule.code
  · rw [if_neg (not_not_intro hkind), if_neg (not_not_intro hkind)]
    cases hkept : (p.sampler.next p.settings.rate).1 with
    | true =>
      -- The sampler is asked before any lock is tried.
      rcases deliver_withCoreLocks hsampled held core (n.toRecord now) with he | he
      · exact .inl he
      · exact .inr ⟨by simp [hkind], he⟩
    | false => exact .inl rfl
  · rw [if_pos hkind, if_pos hkind]
    exact .inl rfl

/-- A pass fails because of the lock and only counts that, or it does
what it does while all locks are free. -/
theorem flushCore_withCoreLocks {p : Pipeline} (h : p.Sound) (held : Nat → Bool) (core : Nat) :
    (((p.withCoreLocks held).flushCore core).2 = (p.flushCore core).2.withCoreLocks held ∧
      (p.withCoreLocks held).refusedInPass core = p.refusedInPass core) ∨
    (((p.withCoreLocks held).flushCore core).2
        = (p.bumps [.readWait, .lockContended]).withCoreLocks held ∧
      (p.withCoreLocks held).refusedInPass core = []) := by
  cases hslots : p.slots with
  | none =>
    have hlocked : (p.withCoreLocks held).slots = none := congrArg (Option.map _) hslots
    refine .inl ⟨?_, ?_⟩
    · rw [flushCore, flushCore, hslots, hlocked]
    · rw [refusedInPass, refusedInPass, hslots, hlocked]
  | some a =>
    obtain ⟨storeCapacity, queueCapacity, ha⟩ := h a hslots
    have hlocked : (p.withCoreLocks held).slots = some (a.withLocks held) :=
      congrArg (Option.map _) hslots
    rw [flushCore, flushCore, refusedInPass, refusedInPass, hslots, hlocked]
    dsimp only
    rw [show (p.withCoreLocks held).outlet = p.outlet from rfl,
      show (p.withCoreLocks held).batch = p.batch from rfl]
    rcases Outlet.flushCore_withLocks ha held p.outlet p.batch core with ⟨he, hr⟩ | ⟨he, hr⟩
    · rw [he]
      exact .inl ⟨rfl, hr⟩
    · rw [he]
      refine .inr ⟨?_, hr⟩
      -- The slots are as they were, since counting does not touch them.
      have hwaited : (p.bumps [.readWait, .lockContended]).withCoreLocks held
          = { p.bumps [.readWait, .lockContended] with
              slots := some (a.withLocks held) } := by
        rw [← hlocked]
        rfl
      rw [hwaited]
      rfl

/-- The reader passes no lock. -/
theorem tryReceive?_withCoreLocks (p : Pipeline) (held : Nat → Bool) :
    (p.withCoreLocks held).tryReceive?
      = p.tryReceive?.map fun found => (found.1, found.2.withCoreLocks held) := by
  rw [tryReceive?, tryReceive?, show (p.withCoreLocks held).outlet = p.outlet from rfl]
  cases p.outlet.channel.tryReceive? <;> rfl

/-! ### The account of a step -/

/-- The traffic of a pass that hands on one record. -/
def offerTraffic (p : Pipeline) (core : Nat) : Traffic :=
  { p with batch := 1 }.traffic (.flushCore core)

/-- A pipeline, what passed its borders, and the pipeline afterwards,
between which no record was lost. -/
structure Accounts (p : Pipeline) (t : Traffic) (q : Pipeline) : Prop where
  sound : q.Sound
  limits_eq : q.limits = p.limits
  law : p.heldInAll + t.admitted.length
    = q.heldInAll + counted t.delivered + counted t.refused

/-- Where nothing passes and nothing is stored or taken out, there is
nothing to account for. -/
theorem Accounts.refl {p : Pipeline} (h : p.Sound) : Accounts p .empty p := ⟨h, rfl, rfl⟩

/-- What is accounted for step by step is accounted for. -/
theorem Accounts.trans {p q r : Pipeline} {t u : Traffic} (h : Accounts p t q)
    (hnext : Accounts q u r) : Accounts p (t.append u) r where
  sound := hnext.sound
  limits_eq := hnext.limits_eq.trans h.limits_eq
  law := by
    have hfirst := h.law
    have hsecond := hnext.law
    rw [Traffic.append]
    dsimp only
    rw [List.length_append, counted_append, counted_append]
    omega

/-- An operation while all locks are free. -/
theorem accounts_after {p : Pipeline} (h : p.Sound) (op : Operation)
    (hfits : p.heldInAll + (p.traffic op).admitted.length < UInt64.size) :
    Accounts p (p.traffic op) (p.after op) where
  sound := h.after op
  limits_eq := p.limits_after op
  law := by
    have hlaw := held_after (fun _ => true) h op hfits
    rwa [List.countP_eq_length.mpr fun _ _ => rfl, tally_credit_all, tally_credit_all] at hlaw

/-- A notification, with the locks in any state. -/
theorem accounts_trace {p : Pipeline} (h : p.Sound) (held : Nat → Bool) (core : Nat)
    (n : Notification) (now : UInt64)
    (hfits : p.heldInAll + ((p.withCoreLocks held).traffic (.trace core n now)).admitted.length
      < UInt64.size) :
    Accounts p ((p.withCoreLocks held).traffic (.trace core n now))
      (((p.withCoreLocks held).trace core n now).2.withCoreLocks fun _ => false) := by
  have hadmits : (p.withCoreLocks held).admits n = p.admits n := rfl
  rw [traffic, hadmits] at hfits ⊢
  rcases trace_withCoreLocks h held core n now with he | ⟨hadmitted, he⟩
  · rw [he, (h.trace core n now).withCoreLocks_back]
    exact accounts_after h (.trace core n now) hfits
  · -- The record goes to the output although there may be room in its slot.
    have hsampled : p.sampled.Sound := h
    have hdirect := held_emitDirect (fun _ => true)
      (p.sampled.bumps [.writeWait, .lockContended]) core (n.toRecord now)
    have hsound := (hsampled.bumps [.writeWait, .lockContended]).emitDirect core (n.toRecord now)
    rw [held_bumps, n.credit_toRecord, if_pos rfl, tally_credit_all] at hdirect
    rw [he, hsound.withCoreLocks_back, hadmitted, if_pos rfl]
    refine ⟨hsound, ?_, hdirect⟩
    exact (onlyOn_emitDirect (p.sampled.bumps _) core _).limits_eq

/-- A pass, with the locks in any state. -/
theorem accounts_flushCore {p : Pipeline} (h : p.Sound) (held : Nat → Bool) (core : Nat) :
    Accounts p ((p.withCoreLocks held).traffic (.flushCore core))
      (((p.withCoreLocks held).flushCore core).2.withCoreLocks fun _ => false) := by
  rw [traffic]
  rcases flushCore_withCoreLocks h held core with ⟨he, hrefused⟩ | ⟨he, hrefused⟩
  · have hlaw := held_flushCore (fun _ => true) h core
    rw [tally_credit_all] at hlaw
    rw [he, hrefused, (h.flushCore core).withCoreLocks_back]
    exact ⟨h.flushCore core, (onlyOn_flushCore p core).limits_eq, hlaw⟩
  · have hbumps := h.bumps [.readWait, .lockContended]
    rw [he, hrefused, hbumps.withCoreLocks_back]
    exact ⟨hbumps, rfl, (held_bumps _ p _).symm⟩

/-- A pass that hands on one record keeps the slots sound. -/
theorem Sound.offer {p : Pipeline} (h : p.Sound) (core : Nat) : (p.offer core).Sound := by
  have hone : Pipeline.Sound { p with batch := 1 } := h
  exact hone.flushCore core

/-- One record of a pass, with the locks in any state. -/
theorem accounts_offer {p : Pipeline} (h : p.Sound) (held : Nat → Bool) (core : Nat) :
    Accounts p ((p.withCoreLocks held).offerTraffic core)
      (((p.withCoreLocks held).offer core).withCoreLocks fun _ => false) := by
  have hone : Pipeline.Sound { p with batch := 1 } := h
  have hpass := accounts_flushCore hone held core
  refine ⟨hpass.sound, ?_, hpass.law⟩
  exact congrArg (Prod.mk p.batch) (Prod.mk.inj hpass.limits_eq).2

end Pipeline

end RuleTrace
