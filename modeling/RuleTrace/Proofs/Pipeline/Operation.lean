import RuleTrace.Pipeline.Basic
import RuleTrace.Proofs.Outlet

/-!
# `RuleTrace.Proofs.Pipeline.Operation`: what is done with a pipeline

A pipeline is used by whoever delivers notifications, by the flush
passes, by whoever changes its settings, and by the reader.
`Pipeline.Operation` lists all that they can do, and
`Pipeline.afterAll` does one thing after another, in any order.

What is in a pipeline is stored in its slots (`Pipeline.stored`) or
waits in its lanes (`Pipeline.waiting`). `deliver_cases`,
`emitDirect_cases` and `flushCore_cases` say once where records go;
draining everything is a sequence of flush passes
(`drainAll_eq_flushAll`), so it needs no cases of its own. All this is
true of pipelines whose slots are sound (`Pipeline.Sound`), which every
operation preserves (`Sound.afterAll`).
-/

set_option autoImplicit false

namespace RuleTrace

/-- The counters that tell who had to do without a lock or a slot. They
stand beside every account of the notifications. -/
def Counter.waits : List Counter := [.writeWait, .readWait, .lockContended]

namespace Pipeline

/-- Something that is done with a pipeline. -/
inductive Operation where
  | trace (core : Nat) (n : Notification) (now : UInt64)
  | flushCore (core : Nat)
  | drainAll
  | update (rate : UInt64) (interval : Span)
  | tryReceive
  | poll
  | receiveAll
  | close

/-- The pipeline after an operation. -/
def after (p : Pipeline) : Operation → Pipeline
  | .trace core n now => (p.trace core n now).2
  | .flushCore core => (p.flushCore core).2
  | .drainAll => p.drainAll.2
  | .update rate interval => (p.update rate interval).2
  | .tryReceive => (p.tryReceive?.map Prod.snd).getD p
  | .poll =>
    match p.poll with
    | .ready (_, q) => q
    | _ => p
  | .receiveAll => p.receiveAll.2
  | .close => p.close

/-- The pipeline after operations. -/
def afterAll (p : Pipeline) (ops : List Operation) : Pipeline := ops.foldl after p

/-- The records in the slots. -/
def stored (p : Pipeline) : List Record := (p.slots.map Aggregation.stored).getD []

/-- The records in the lanes. -/
def waiting (p : Pipeline) : List Record := p.outlet.channel.waiting

/-- The pipeline with counters grown by one each. -/
def bumps (p : Pipeline) (ks : List Counter) : Pipeline := ks.foldl bump p

/-- Every slot is the layout of a roster. -/
def Sound (p : Pipeline) : Prop :=
  ∀ a, p.slots = some a → ∃ storeCapacity queueCapacity, a.Sound storeCapacity queueCapacity

/-- With slots, what is stored is stored in them. -/
theorem stored_eq {p : Pipeline} {a : Aggregation} (h : p.slots = some a) :
    p.stored = a.stored := by
  rw [stored, h]
  rfl

/-- Without slots nothing is stored. -/
theorem stored_eq_nil {p : Pipeline} (h : p.slots = none) : p.stored = [] := by
  rw [stored, h]
  rfl

/-- Counting changes counters only. -/
theorem bumps_eq (p : Pipeline) (ks : List Counter) :
    p.bumps ks
      = { p with outlet := { p.outlet with counters := (p.bumps ks).outlet.counters } } := by
  induction ks generalizing p with
  | nil => rfl
  | cons k ks ih => exact ih (p.bump k)

/-- Counting stores nothing. -/
@[simp] theorem stored_bumps (p : Pipeline) (ks : List Counter) :
    (p.bumps ks).stored = p.stored := by
  rw [bumps_eq]
  rfl

/-- Counting leaves what waits in the lanes. -/
@[simp] theorem waiting_bumps (p : Pipeline) (ks : List Counter) :
    (p.bumps ks).waiting = p.waiting := by
  rw [bumps_eq]
  rfl

/-- Counting leaves the slots sound. -/
theorem Sound.bumps {p : Pipeline} (h : p.Sound) (ks : List Counter) : (p.bumps ks).Sound := by
  rw [bumps_eq]
  exact h

/-- The slots of a new pipeline are sound. -/
theorem sound_new (c : Config) (cores : Nat) : (new c cores).Sound := by
  intro a ha
  rw [new] at ha
  by_cases haggregating : c.isAggregating
  · simp only [haggregating, if_true, Option.some.injEq] at ha
    subst ha
    exact ⟨_, _, Aggregation.sound_new ..⟩
  · simp [haggregating] at ha

/-- Nothing is stored in a new pipeline. -/
theorem stored_new (c : Config) (cores : Nat) : (new c cores).stored = [] := by
  rw [new]
  by_cases haggregating : c.isAggregating
  · simp only [haggregating, if_true]
    refine (stored_eq rfl).trans (List.flatMap_eq_nil_iff.mpr fun g hg => ?_)
    obtain ⟨-, -, rfl⟩ := List.mem_map.mp hg
    rfl
  · simp only [haggregating, Bool.false_eq_true, if_false]
    rfl

/-- Nothing waits in a new pipeline. -/
theorem waiting_new (c : Config) (cores : Nat) : (new c cores).waiting = [] := by
  rw [new]
  by_cases haggregating : c.isAggregating
  · simp only [haggregating, if_true]
    exact Channel.waiting_new ..
  · simp only [haggregating, Bool.false_eq_true, if_false]
    exact Channel.waiting_new ..

/-- Nothing was counted yet in a new pipeline. -/
theorem counters_new (c : Config) (cores : Nat) : (new c cores).counters = .zero := by
  rw [new]
  cases c.isAggregating <;> rfl

/-! ### One notification -/

/-- The pipeline after the sampler has seen a match. -/
def sampled (p : Pipeline) : Pipeline :=
  { p.bump .packetsSeen with sampler := (p.sampler.next p.settings.rate).2 }

/-- A notification is filtered out, sampled out or delivered. -/
theorem trace_eq (p : Pipeline) (core : Nat) (n : Notification) (now : UInt64) :
    p.trace core n now
      = if n.eventKind ≠ EventKind.rule.code then (.filtered, p.bump .filtered)
        else if (p.sampler.next p.settings.rate).1 then p.sampled.deliver core (n.toRecord now)
        else (.sampledOut, p.sampled.bump .sampledOut) := rfl

/-- A record that goes straight to the output is taken or counted as
dropped. -/
theorem emitDirect_cases (p : Pipeline) (core : Nat) (r : Record) :
    (∃ d, p.outlet.channel.publish core r = .ok d ∧
      p.emitDirect core r = (.emitted, (p.withChannel d).bump .directEmitted)) ∨
    p.emitDirect core r = (.dropped, p.bump .outputDropped) := by
  rw [emitDirect]
  rcases p.outlet.publish_cases core r with ⟨d, hd, ho⟩ | ⟨e, he, ho⟩
  · rw [ho]
    exact .inl ⟨d, hd, rfl⟩
  · rw [ho]
    exact .inr rfl

/-- A record is merged into a stored one with its id, or stored, or
goes straight to the output, perhaps after waits. -/
theorem deliver_cases {p : Pipeline} (h : p.Sound) (core : Nat) (r : Record) :
    (∃ b old, p.deliver core r = (.merged, { p with slots := some b }.bump .merged) ∧
      ({ p with slots := some b }.bump .merged).Sound ∧ old ∈ p.stored ∧ old.id = r.id ∧
      ∀ f, tally f b.stored + f old = tally f p.stored + f (old.counting 1)) ∨
    (∃ b, p.deliver core r = (.aggregated, { p with slots := some b }.bump .aggregated) ∧
      ({ p with slots := some b }.bump .aggregated).Sound ∧
      ∀ f, tally f b.stored = tally f p.stored + f r) ∨
    (∃ ks, (∀ k ∈ ks, k ∈ Counter.waits) ∧
      p.deliver core r = (p.bumps ks).emitDirect core r) := by
  have hdirect : p.emitDirect core r = (p.bumps []).emitDirect core r := rfl
  cases hslots : p.slots with
  | none =>
    -- Without slots everything goes straight to the output.
    refine .inr (.inr ⟨[], by simp, ?_⟩)
    rw [deliver, hslots, hdirect]
  | some a =>
    by_cases henabled : p.settings.enabled
    · obtain ⟨storeCapacity, queueCapacity, ha⟩ := h a hslots
      have hdeliver : p.deliver core r
          = { p with slots := some (a.absorb core r).2 }.afterAbsorb core (a.absorb core r).1 := by
        rw [deliver, hslots]
        simp only [henabled, if_true]
      rw [hdeliver, stored_eq hslots]
      rcases ha.absorb_cases core r with
        ⟨count, b, old, he, hb, hold, hid, htally⟩ | ⟨b, he, hb, htally⟩ | ⟨reason, he⟩ <;>
        rw [he]
      · refine .inl ⟨b, old, rfl, fun b' hb' => ?_, hold, hid, htally⟩
        cases hb'
        exact ⟨_, _, hb⟩
      · refine .inr (.inl ⟨b, rfl, fun b' hb' => ?_, htally⟩)
        cases hb'
        exact ⟨_, _, hb⟩
      · -- The slots are those from before, and only the waits tell of the attempt.
        have hsame : { p with slots := some a } = p := by rw [← hslots]
        dsimp only
        rw [hsame]
        by_cases hcontended : reason = .contended
        · subst hcontended
          exact .inr (.inr ⟨[.writeWait, .lockContended], by simp [Counter.waits], rfl⟩)
        · refine .inr (.inr ⟨[.writeWait], by simp [Counter.waits], ?_⟩)
          cases reason <;> first | rfl | exact absurd rfl hcontended
    · refine .inr (.inr ⟨[], by simp, ?_⟩)
      rw [deliver, hslots, hdirect]
      simp only [henabled, Bool.false_eq_true, if_false]

/-! ### Flush passes -/

/-- The records of a pass over a core that the lanes do not take. -/
def refusedInPass (p : Pipeline) (core : Nat) : List Record :=
  match p.slots with
  | none => []
  | some a => Outlet.refusedBy a p.outlet p.batch core

/-- A pass changes nothing but waits, or takes records out and offers
each of them. -/
theorem flushCore_cases {p : Pipeline} (h : p.Sound) (core : Nat) :
    (∃ ks, (∀ k ∈ ks, k ∈ Counter.waits) ∧ (p.flushCore core).2 = p.bumps ks ∧
      p.refusedInPass core = []) ∨
    (∃ rs b, (p.flushCore core).2
        = { p with slots := some b, outlet := rs.foldl (Outlet.publishFlushed core) p.outlet } ∧
      (p.flushCore core).2.Sound ∧
      p.refusedInPass core = p.outlet.channel.refused core rs ∧
      ∀ f, tally f p.stored = tally f rs + tally f b.stored) := by
  rw [flushCore, refusedInPass]
  cases hslots : p.slots with
  | none => exact .inl ⟨[], by simp, rfl, rfl⟩
  | some a =>
    obtain ⟨storeCapacity, queueCapacity, ha⟩ := h a hslots
    rw [stored_eq hslots]
    rcases Outlet.flushCore_cases ha p.outlet p.batch core with
      ⟨he, hrefused⟩ | ⟨rs, remaining, b, he, hrefused, hb, htally⟩
    · -- The lock was not to be had.
      refine .inl ⟨[.readWait, .lockContended], by simp [Counter.waits], ?_, hrefused⟩
      simp only [he, ← hslots]
      rfl
    · refine .inr ⟨rs, b, ?_, ?_, hrefused, htally⟩
      · simp only [he]
      · simp only [he]
        intro b' hb'
        cases hb'
        exact ⟨_, _, hb⟩

/-- Passes over cores, one after another. -/
def flushAll (p : Pipeline) (cores : List Nat) : Pipeline :=
  cores.foldl (fun p core => (p.flushCore core).2) p

/-- Passes may be cut anywhere. -/
theorem flushAll_append (p : Pipeline) (cores others : List Nat) :
    p.flushAll (cores ++ others) = (p.flushAll cores).flushAll others := List.foldl_append

/-- The records of passes, one after another, that the lanes do not
take. -/
def refusedInPasses : Pipeline → List Nat → List Record
  | _, [] => []
  | p, core :: cores => p.refusedInPass core ++ refusedInPasses (p.flushCore core).2 cores

/-- The passes that empty all slots. -/
def passes (p : Pipeline) : List Nat :=
  match p.slots with
  | none => []
  | some a => Outlet.passes p.batch (List.range a.coreCount) a p.outlet

/-- Passes change the slots and the outlet as they do without the
pipeline around them. -/
theorem flushAll_eq {p : Pipeline} {a : Aggregation} (h : p.slots = some a) (cores : List Nat) :
    p.flushAll cores
      = { p with
          slots := some (Outlet.flushes p.batch cores a p.outlet).1
          outlet := (Outlet.flushes p.batch cores a p.outlet).2 } := by
  induction cores generalizing p a with
  | nil =>
    rw [Outlet.flushes, ← h]
    rfl
  | cons core cores ih =>
    -- One pass, seen from outside and without the pipeline around it.
    have hpass : (p.flushCore core).2
        = { p with
            slots := some (Outlet.flushCore a p.outlet p.batch core).2.1
            outlet := (Outlet.flushCore a p.outlet p.batch core).2.2 } := by
      rw [flushCore, h]
    show (p.flushCore core).2.flushAll cores = _
    rw [hpass, ih rfl, Outlet.flushes]

/-- Draining everything is a sequence of passes. -/
theorem drainAll_eq_flushAll (p : Pipeline) : p.drainAll.2 = p.flushAll p.passes := by
  rw [drainAll, passes]
  cases hslots : p.slots with
  | none => rfl
  | some a =>
    dsimp only
    rw [flushAll_eq hslots, ← Outlet.drainAll_eq_flushes]

/-! ### Every operation -/

/-- An operation traces a notification, or is a sequence of passes, or
changes nothing but the settings and what is in the lanes. -/
theorem after_cases (p : Pipeline) (op : Operation) :
    (∃ core n now, p.after op = (p.trace core n now).2) ∨
    (∃ cores, p.after op = p.flushAll cores) ∨
    ∃ s c, c.shape = p.outlet.channel.shape ∧
      p.after op = { p.withChannel c with settings := s } := by
  cases op with
  | trace core n now => exact .inl ⟨core, n, now, rfl⟩
  | flushCore core => exact .inr (.inl ⟨[core], rfl⟩)
  -- So that no later proof needs a case for draining.
  | drainAll => exact .inr (.inl ⟨p.passes, p.drainAll_eq_flushAll⟩)
  | update rate interval => exact .inr (.inr ⟨_, p.outlet.channel, rfl, rfl⟩)
  | tryReceive =>
    rw [after, tryReceive?]
    cases hfound : p.outlet.channel.tryReceive? with
    | none => exact .inr (.inr ⟨p.settings, p.outlet.channel, rfl, rfl⟩)
    | some found =>
      exact .inr (.inr ⟨p.settings, found.2, Channel.shape_tryReceive? hfound, rfl⟩)
  | poll =>
    rw [after, poll]
    cases hfound : p.outlet.channel.poll with
    | ready found => exact .inr (.inr ⟨p.settings, found.2, Channel.shape_poll hfound, rfl⟩)
    | pending => exact .inr (.inr ⟨p.settings, p.outlet.channel, rfl, rfl⟩)
    | ended => exact .inr (.inr ⟨p.settings, p.outlet.channel, rfl, rfl⟩)
  | receiveAll =>
    exact .inr (.inr ⟨p.settings, p.outlet.channel.drain.2, Channel.shape_receiveUpTo .., rfl⟩)
  | close =>
    exact .inr (.inr ⟨p.settings, p.outlet.channel.close, Channel.shape_close _, rfl⟩)

namespace Sound

variable {p : Pipeline} (h : p.Sound)
include h

/-- A record that goes straight to the output does not come near the slots. -/
theorem emitDirect (core : Nat) (r : Record) : (p.emitDirect core r).2.Sound := by
  rcases p.emitDirect_cases core r with ⟨d, -, he⟩ | he
  · rw [he]
    exact h
  · rw [he]
    exact h

/-- A record that is delivered leaves the slots sound. -/
theorem deliver (core : Nat) (r : Record) : (p.deliver core r).2.Sound := by
  rcases deliver_cases h core r with ⟨b, old, he, hb, -⟩ | ⟨b, he, hb, -⟩ | ⟨ks, -, he⟩
  · rw [he]
    exact hb
  · rw [he]
    exact hb
  · rw [he]
    exact (h.bumps ks).emitDirect core r

/-- A notification leaves the slots sound. -/
theorem trace (core : Nat) (n : Notification) (now : UInt64) : (p.trace core n now).2.Sound := by
  have hsampled : p.sampled.Sound := h
  rw [trace_eq]
  split
  · exact h
  · split
    · exact hsampled.deliver core _
    · exact h

/-- A pass leaves the slots sound. -/
theorem flushCore (core : Nat) : (p.flushCore core).2.Sound := by
  rcases flushCore_cases h core with ⟨ks, -, he, -⟩ | ⟨rs, b, -, hb, -⟩
  · rw [he]
    exact h.bumps ks
  · exact hb

/-- Passes leave the slots sound. -/
theorem flushAll (cores : List Nat) : (p.flushAll cores).Sound := by
  induction cores generalizing p with
  | nil => exact h
  | cons core cores ih => exact ih (h.flushCore core)

/-- No operation spoils the slots. -/
theorem after (op : Operation) : (p.after op).Sound := by
  rcases p.after_cases op with ⟨core, n, now, he⟩ | ⟨cores, he⟩ | ⟨s, c, -, he⟩
  · rw [he]
    exact h.trace core n now
  · rw [he]
    exact h.flushAll cores
  · -- Neither settings nor lanes are part of the slots.
    rw [he]
    exact h

/-- Whatever is done, the slots stay sound. -/
theorem afterAll (ops : List Operation) : (p.afterAll ops).Sound := by
  induction ops generalizing p with
  | nil => exact h
  | cons op ops ih => exact ih (h.after op)

end Sound

end Pipeline

end RuleTrace
