import RuleTrace.Proofs.Pipeline.Operation

/-!
# `RuleTrace.Proofs.Pipeline.Frame`: what work on one core leaves alone

A notification that comes on a core, and a pass over a core, may change
the slot of this core and the lane that it writes to. `OnlyOn` is the
frame: the settings, the batch, the layout of the lanes and whatever
belongs to other slots and lanes stay as they are. Only the counters
and the sampler are shared by all cores, and the frame says nothing of
them.

`onlyOn_trace` and `onlyOn_flushCore` establish the frame, and what all
operations keep follows from it: the layout of the lanes
(`shape_afterAll`) for one.
-/

set_option autoImplicit false

namespace RuleTrace

namespace Aggregation

/-- What matters to one core of all slots: the number of attempts at its
lock, and what is behind it. -/
def share (a : Aggregation) (core : Nat) : Nat × Option (Guarded Slot) :=
  (a.attempts, a.cores.get? core)

/-- An operation on one core leaves what matters to another. -/
theorem share_onSlot_of_ne {α : Type} (a : Aggregation) {core other : Nat} (h : other ≠ core)
    (operation : Slot → α × Slot) :
    (a.onSlot core operation).2.share other = a.share other := by
  rw [onSlot]
  cases a.cores.get? core with
  | none => rfl
  | some g => exact congrArg (Prod.mk a.attempts) (a.cores.get?_set_of_ne h _)

/-- A record that is absorbed on one core leaves the other cores alone. -/
theorem share_absorb_of_ne (a : Aggregation) {core other : Nat} (h : other ≠ core) (r : Record) :
    (a.absorb core r).2.share other = a.share other := by
  rw [snd_absorb, share_onSlot_of_ne a h]

/-- What is drained on one core leaves the other cores alone. -/
theorem share_drain_of_ne (a : Aggregation) {core other : Nat} (h : other ≠ core) (max : Nat) :
    (a.drain core max).2.share other = a.share other := by
  rw [snd_drain, share_onSlot_of_ne a h]

end Aggregation

namespace Channel

/-- A record goes to the lane of its core and to no other. -/
theorem lanes_publish_of_ne {c d : Channel} {core i : Nat} {r : Record}
    (h : c.publish core r = .ok d) (hi : i ≠ c.laneOf core) : d.lanes[i]? = c.lanes[i]? := by
  obtain ⟨l, m, -, -, rfl⟩ := exists_lane_of_publish h
  exact List.getElem?_set_ne (Ne.symm hi)

/-- Records of one core go to its lane and to no other. -/
theorem lanes_publishAll_of_ne (c : Channel) {core i : Nat} (rs : List Record)
    (hi : i ≠ c.laneOf core) : (c.publishAll core rs).lanes[i]? = c.lanes[i]? := by
  induction rs generalizing c with
  | nil => rfl
  | cons r rs ih =>
    rw [publishAll]
    cases hpublish : c.publish core r with
    | ok d =>
      have hlane := laneOf_of_shape (shape_publish hpublish) core
      exact (ih d (hlane ▸ hi)).trans (lanes_publish_of_ne hpublish hi)
    | error e => exact ih c hi

end Channel

namespace Pipeline

/-- A pipeline and one that came of it by work on one core. -/
structure OnlyOn (core : Nat) (p q : Pipeline) : Prop where
  settings_eq : q.settings = p.settings
  batch_eq : q.batch = p.batch
  shape_eq : q.outlet.channel.shape = p.outlet.channel.shape
  slot_eq : ∀ other, other ≠ core →
    q.slots.map (fun a => a.share other) = p.slots.map fun a => a.share other
  lane_eq : ∀ i, i ≠ p.outlet.channel.laneOf core →
    q.outlet.channel.lanes[i]? = p.outlet.channel.lanes[i]?

namespace OnlyOn

variable {core : Nat} {p q s : Pipeline}

/-- A pipeline is framed by itself. -/
theorem refl (core : Nat) (p : Pipeline) : OnlyOn core p p :=
  ⟨rfl, rfl, rfl, fun _ _ => rfl, fun _ _ => rfl⟩

/-- One piece of work on a core may follow another. -/
theorem trans (h : OnlyOn core p q) (h' : OnlyOn core q s) : OnlyOn core p s where
  settings_eq := h'.settings_eq.trans h.settings_eq
  batch_eq := h'.batch_eq.trans h.batch_eq
  shape_eq := h'.shape_eq.trans h.shape_eq
  slot_eq other hother := (h'.slot_eq other hother).trans (h.slot_eq other hother)
  lane_eq i hi := by
    -- The core writes to the same lane before and after.
    have hlane := Channel.laneOf_of_shape h.shape_eq core
    exact (h'.lane_eq i (hlane ▸ hi)).trans (h.lane_eq i hi)

/-- Counting is work on any core, for counters are not in the frame. -/
theorem bump (core : Nat) (p : Pipeline) (k : Counter) : OnlyOn core p (p.bump k) :=
  ⟨rfl, rfl, rfl, fun _ _ => rfl, fun _ _ => rfl⟩

end OnlyOn

/-- Slots of which only that of one core is another one. -/
theorem onlyOn_slots {core : Nat} {p : Pipeline} {a b : Aggregation} (ha : p.slots = some a)
    (hb : ∀ other, other ≠ core → b.share other = a.share other) :
    OnlyOn core p { p with slots := some b } := by
  refine ⟨rfl, rfl, rfl, fun other hother => ?_, fun _ _ => rfl⟩
  rw [ha, Option.map_some, Option.map_some, hb other hother]

/-- A record that goes straight to the output changes one lane at most. -/
theorem onlyOn_emitDirect (p : Pipeline) (core : Nat) (r : Record) :
    OnlyOn core p (p.emitDirect core r).2 := by
  rcases p.emitDirect_cases core r with ⟨d, hd, he⟩ | he
  · rw [he]
    exact ⟨rfl, rfl, Channel.shape_publish hd, fun _ _ => rfl,
      fun _ hi => Channel.lanes_publish_of_ne hd hi⟩
  · rw [he]
    exact .bump core p _

/-- What the slot answers is counted, and a record that it does not take
goes to the lane of the core. -/
theorem onlyOn_afterAbsorb (p : Pipeline) (core : Nat) (result : Absorbed) :
    OnlyOn core p (p.afterAbsorb core result).2 := by
  have hwait := OnlyOn.bump core p .writeWait
  cases result with
  | merged count => exact .bump core p _
  | queued => exact .bump core p _
  | fallback reason r =>
    by_cases hcontended : reason = .contended
    · subst hcontended
      exact (hwait.trans (.bump core _ .lockContended)).trans (onlyOn_emitDirect _ core r)
    · have hdirect := hwait.trans (onlyOn_emitDirect _ core r)
      cases reason <;> first | exact hdirect | exact absurd rfl hcontended

/-- A record that is delivered changes the slot and the lane of its core at
most. -/
theorem onlyOn_deliver (p : Pipeline) (core : Nat) (r : Record) :
    OnlyOn core p (p.deliver core r).2 := by
  rw [deliver]
  cases hslots : p.slots with
  | none => exact onlyOn_emitDirect p core r
  | some a =>
    dsimp only
    split
    · have hslot : OnlyOn core p { p with slots := some (a.absorb core r).2 } :=
        onlyOn_slots hslots fun other hother => a.share_absorb_of_ne hother r
      exact hslot.trans (onlyOn_afterAbsorb _ core _)
    · exact onlyOn_emitDirect p core r

/-- A notification leaves the other cores alone. -/
theorem onlyOn_trace (p : Pipeline) (core : Nat) (n : Notification) (now : UInt64) :
    OnlyOn core p (p.trace core n now).2 := by
  have hsampled : OnlyOn core p p.sampled := ⟨rfl, rfl, rfl, fun _ _ => rfl, fun _ _ => rfl⟩
  rw [trace_eq]
  split
  · exact .bump core p _
  · split
    · exact hsampled.trans (onlyOn_deliver _ core _)
    · exact hsampled.trans (.bump core _ _)

/-- A pass leaves the other cores alone. -/
theorem onlyOn_flushCore (p : Pipeline) (core : Nat) : OnlyOn core p (p.flushCore core).2 := by
  rw [flushCore]
  cases hslots : p.slots with
  | none => exact .refl core p
  | some a =>
    obtain ⟨-, hslot, hlanes⟩ := Outlet.flushCore_parts a p.outlet p.batch core
    refine ⟨rfl, rfl, ?_, fun other hother => ?_, fun i hi => ?_⟩
    · dsimp only
      rw [hlanes, Channel.shape_publishAll]
    · dsimp only
      rw [hslots, hslot, Option.map_some, Option.map_some, a.share_drain_of_ne hother]
    · dsimp only
      rw [hlanes, Channel.lanes_publishAll_of_ne _ _ hi]

/-! ### The layout of the lanes -/

/-- Passes keep the layout of the lanes. -/
theorem shape_flushAll (p : Pipeline) (cores : List Nat) :
    (p.flushAll cores).outlet.channel.shape = p.outlet.channel.shape := by
  induction cores generalizing p with
  | nil => rfl
  | cons core cores ih => exact (ih _).trans (onlyOn_flushCore p core).shape_eq

/-- No operation changes the layout of the lanes. -/
theorem shape_after (p : Pipeline) (op : Operation) :
    (p.after op).outlet.channel.shape = p.outlet.channel.shape := by
  rcases p.after_cases op with ⟨core, n, now, he⟩ | ⟨cores, he⟩ | ⟨s, c, hc, he⟩
  · rw [he]
    exact (onlyOn_trace p core n now).shape_eq
  · rw [he]
    exact shape_flushAll p cores
  · rw [he]
    exact hc

/-- The lanes are laid out once and for all. -/
theorem shape_afterAll (p : Pipeline) (ops : List Operation) :
    (p.afterAll ops).outlet.channel.shape = p.outlet.channel.shape := by
  induction ops generalizing p with
  | nil => rfl
  | cons op ops ih => exact (ih _).trans (p.shape_after op)

/-- A pipeline that aggregates has a lane for each core. -/
theorem shape_new {c : Config} (h : c.isAggregating) (cores : Nat) :
    (new c cores).outlet.channel.shape = (.multiplexed, max cores 1) := by
  rw [new]
  simp only [h, if_true]
  rw [Channel.shape_new, Channel.laneCountFor, Nat.max_eq_left (Nat.le_max_right cores 1)]

end Pipeline

end RuleTrace
