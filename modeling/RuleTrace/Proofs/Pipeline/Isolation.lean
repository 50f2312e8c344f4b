import RuleTrace.Proofs.Output.Lanes
import RuleTrace.Proofs.Pipeline.Frame

/-!
# `RuleTrace.Proofs.Pipeline.Isolation`: cores do not see each other

What one core can see of a pipeline is its `share`: the settings, the
size of a batch, its slot, the layout of the lanes and its own lane.
Two facts about the share carry everything here.

* Work on another core leaves it alone. This is the frame of
  `RuleTrace.Proofs.Pipeline.Frame`, for cores that write to lanes of
  their own.
* What a core answers, and its share afterwards, depend on its share
  only (`use_congr`). This is false of a sample rate other than zero,
  for all cores share the sampler's count.

So a run answers to a core as if only the work on this core had been
done (`run_agrees`), and two runs with the same work on a core cannot be
told apart there (`cores_isolated`).
-/

set_option autoImplicit false

namespace RuleTrace

namespace Aggregation

variable {a b : Aggregation} {core : Nat}

/-- An operation on a core runs alike on slots that are alike there. -/
theorem onSlot_congr {α : Type} (h : a.share core = b.share core)
    (operation : Slot → α × Slot) :
    (a.onSlot core operation).1 = (b.onSlot core operation).1 ∧
    (a.onSlot core operation).2.share core = (b.onSlot core operation).2.share core := by
  obtain ⟨hattempts, hslot⟩ := Prod.mk.inj h
  rw [onSlot, onSlot, ← hslot, ← hattempts]
  cases hg : a.cores.get? core with
  | none => exact ⟨rfl, h⟩
  | some g =>
    -- The core has a slot in both, since the slot that it finds is the same.
    have ha : core < a.cores.size := (List.getElem?_eq_some_iff.mp hg).1
    have hb : core < b.cores.size := (List.getElem?_eq_some_iff.mp (hslot ▸ hg)).1
    refine ⟨rfl, ?_⟩
    dsimp only [share]
    rw [PerCore.get?_set_self ha, PerCore.get?_set_self hb, hattempts]

/-- Slots that are alike on a core absorb a record alike there. -/
theorem absorb_congr (h : a.share core = b.share core) (r : Record) :
    (a.absorb core r).1 = (b.absorb core r).1 ∧
    (a.absorb core r).2.share core = (b.absorb core r).2.share core := by
  obtain ⟨hanswer, hshare⟩ := onSlot_congr h fun s => s.absorb r
  refine ⟨?_, by rwa [snd_absorb, snd_absorb]⟩
  rw [fst_absorb, fst_absorb, hanswer]

/-- Slots that are alike on a core are drained alike there. -/
theorem drain_congr (h : a.share core = b.share core) (max : Nat) :
    (a.drain core max).1 = (b.drain core max).1 ∧
    (a.drain core max).2.share core = (b.drain core max).2.share core := by
  obtain ⟨hanswer, hshare⟩ := onSlot_congr h fun s => s.drain max
  refine ⟨?_, by rwa [snd_drain, snd_drain]⟩
  rw [fst_drain, fst_drain, hanswer]

end Aggregation

namespace Channel

variable {c d : Channel} {core : Nat}

/-- What matters to one core of the lanes: their layout and its own. -/
def share (c : Channel) (core : Nat) : (OutputMode × Nat) × Option Lane :=
  (c.shape, c.lanes[core]?)

/-- In multiplexed mode a core writes to the lane of its number, if there
is one. -/
theorem laneOf_of_lt {lanes : Nat} (h : c.shape = (.multiplexed, lanes)) (hcore : core < lanes) :
    c.laneOf core = core := by
  obtain ⟨hmode, hcount⟩ := Prod.mk.inj h
  rw [laneOf, hmode, hcount]
  exact Nat.mod_eq_of_lt (Nat.lt_of_lt_of_le hcore (Nat.le_max_left ..))

/-- Lanes that are alike for a core refuse a record from it for the same
reason, or accept it and are alike again. -/
theorem publish_congr (h : c.share core = d.share core) (hcore : c.laneOf core = core)
    (r : Record) :
    (∃ e, c.publish core r = .error e ∧ d.publish core r = .error e) ∨
    (∃ c' d', c.publish core r = .ok c' ∧ d.publish core r = .ok d' ∧
      c'.share core = d'.share core) := by
  obtain ⟨hshape, hlane⟩ := Prod.mk.inj h
  have hcore' : d.laneOf core = core := (laneOf_of_shape hshape.symm core).trans hcore
  rw [publish, publish, hcore, hcore', ← hlane]
  cases hl : c.lanes[core]? with
  | none => exact .inl ⟨.closed, rfl, rfl⟩
  | some l =>
    dsimp only
    cases l.publish r with
    | error e => exact .inl ⟨e, rfl, rfl⟩
    | ok m =>
      -- Both put the same lane in its place.
      have hc : core < c.lanes.length := (List.getElem?_eq_some_iff.mp hl).1
      have hd : core < d.lanes.length := (List.getElem?_eq_some_iff.mp (hlane ▸ hl)).1
      have hset : ∀ e : Channel, { e with lanes := e.lanes.set core m }.shape = e.shape := by
        intro e
        exact shape_of_set rfl rfl
      refine .inr ⟨_, _, rfl, rfl, Prod.ext ?_ ?_⟩
      · exact (hset c).trans (hshape.trans (hset d).symm)
      · exact (List.getElem?_set_self hc).trans (List.getElem?_set_self hd).symm

/-- Lanes that are alike for a core are alike after the same records from
it. -/
theorem publishAll_congr (h : c.share core = d.share core) (hcore : c.laneOf core = core)
    (rs : List Record) :
    (c.publishAll core rs).share core = (d.publishAll core rs).share core := by
  induction rs generalizing c d with
  | nil => exact h
  | cons r rs ih =>
    rw [publishAll, publishAll]
    rcases publish_congr h hcore r with ⟨e, hc, hd⟩ | ⟨c', d', hc, hd, hshare⟩ <;> rw [hc, hd]
    · exact ih h hcore
    · -- The core still writes to the lane of its number.
      exact ih hshare ((laneOf_of_shape (shape_publish hc) core).trans hcore)

end Channel

namespace Outlet

/-- Outlets that are alike for a core answer alike to a record from it. -/
theorem publish_congr {o q : Outlet} {core : Nat}
    (h : o.channel.share core = q.channel.share core) (hcore : o.channel.laneOf core = core)
    (r : Record) :
    (o.publish core r).1 = (q.publish core r).1 ∧
    (o.publish core r).2.channel.share core = (q.publish core r).2.channel.share core := by
  rw [publish, publish]
  rcases Channel.publish_congr h hcore r with ⟨e, hc, hd⟩ | ⟨c, d, hc, hd, hshare⟩ <;>
    rw [hc, hd]
  · exact ⟨rfl, h⟩
  · exact ⟨rfl, hshare⟩

end Outlet

namespace Pipeline

/-- What one core can see of a pipeline. -/
structure Share where
  settings : Settings
  batch : Nat
  slot : Option (Nat × Option (Guarded Slot))
  lane : (OutputMode × Nat) × Option Lane

def share (p : Pipeline) (core : Nat) : Share where
  settings := p.settings
  batch := p.batch
  slot := p.slots.map fun a => a.share core
  lane := p.outlet.channel.share core

/-- Work that is done on a core. -/
inductive Work where
  | trace (n : Notification) (now : UInt64)
  | flush
  deriving DecidableEq

/-- What it answers. -/
inductive Answer where
  | outcome (o : Outcome)
  | report (r : DrainReport)
  deriving DecidableEq

/-- Does some work on a core. -/
def work (p : Pipeline) (core : Nat) : Work → Answer × Pipeline
  | .trace n now => (.outcome (p.trace core n now).1, (p.trace core n now).2)
  | .flush => (.report (p.flushCore core).1, (p.flushCore core).2)

/-- Does work on any cores; the answers, each with its core, and the
pipeline after all. -/
def run (p : Pipeline) : List (Nat × Work) → List (Nat × Answer) × Pipeline
  | [] => ([], p)
  | (core, x) :: rest =>
    let (answer, p) := p.work core x
    let (answers, p) := p.run rest
    ((core, answer) :: answers, p)

/-- The items that belong to one core, in order. -/
def onCore {α : Type} (core : Nat) (xs : List (Nat × α)) : List (Nat × α) :=
  xs.filter fun x => x.1 = core

/-- An item of the core comes first. -/
theorem onCore_cons_self {α : Type} (core : Nat) (x : α) (xs : List (Nat × α)) :
    onCore core ((core, x) :: xs) = (core, x) :: onCore core xs :=
  List.filter_cons_of_pos (decide_eq_true rfl)

/-- An item of another core is left out. -/
theorem onCore_cons_of_ne {α : Type} {core other : Nat} (h : other ≠ core) (x : α)
    (xs : List (Nat × α)) : onCore core ((other, x) :: xs) = onCore core xs :=
  List.filter_cons_of_neg (by simpa using h)

/-- A run does its first piece of work, and then the rest. -/
theorem run_cons (p : Pipeline) (core : Nat) (x : Work) (rest : List (Nat × Work)) :
    p.run ((core, x) :: rest)
      = ((core, (p.work core x).1) :: ((p.work core x).2.run rest).1,
        ((p.work core x).2.run rest).2) := rfl

/-- Each core below the number of lanes has a lane for itself, and every
match is kept. -/
structure Parted (lanes : Nat) (p : Pipeline) : Prop where
  shape_eq : p.outlet.channel.shape = (.multiplexed, lanes)
  rate_eq : p.settings.rate = 0

/-! ### One piece of work -/

section
variable {core : Nat} {p q : Pipeline}

/-- The lanes alone decide what becomes of a record that goes straight to
the output, and they alone change. -/
theorem share_emitDirect (p : Pipeline) (core : Nat) (r : Record) :
    (p.emitDirect core r).1
      = (match (p.outlet.publish core r).1 with
        | .ok () => .emitted
        | .error _ => .dropped) ∧
    (p.emitDirect core r).2.share core
      = { p.share core with lane := (p.outlet.publish core r).2.channel.share core } := by
  rw [emitDirect]
  split <;> rename_i h <;> rw [h] <;> exact ⟨rfl, rfl⟩

/-- Records that go straight to the output from a core go alike. -/
theorem emitDirect_congr (h : p.share core = q.share core)
    (hcore : p.outlet.channel.laneOf core = core) (r : Record) :
    (p.emitDirect core r).1 = (q.emitDirect core r).1 ∧
    (p.emitDirect core r).2.share core = (q.emitDirect core r).2.share core := by
  obtain ⟨-, -, -, hlane⟩ := Share.mk.inj h
  obtain ⟨hanswer, hlanes⟩ := Outlet.publish_congr hlane hcore r
  obtain ⟨hp, hp'⟩ := p.share_emitDirect core r
  obtain ⟨hq, hq'⟩ := q.share_emitDirect core r
  rw [hp, hq, hp', hq', hanswer, hlanes, h]
  exact ⟨rfl, rfl⟩

/-- The same answer of the slot is acted upon alike. -/
theorem afterAbsorb_congr (h : p.share core = q.share core)
    (hcore : p.outlet.channel.laneOf core = core) (result : Absorbed) :
    (p.afterAbsorb core result).1 = (q.afterAbsorb core result).1 ∧
    (p.afterAbsorb core result).2.share core = (q.afterAbsorb core result).2.share core := by
  cases result with
  | merged count => exact ⟨rfl, h⟩
  | queued => exact ⟨rfl, h⟩
  | fallback reason r =>
    -- What is counted on the way is not part of the share.
    have hwait : (p.bump .writeWait).share core = (q.bump .writeWait).share core := h
    have hlock : ((p.bump .writeWait).bump .lockContended).share core
        = ((q.bump .writeWait).bump .lockContended).share core := h
    cases reason with
    | contended => exact emitDirect_congr hlock hcore r
    | _ => exact emitDirect_congr hwait hcore r

/-- Pipelines that are alike for a core both have no slots, or both have
slots that are alike there. -/
theorem slots_cases (h : p.share core = q.share core) :
    (p.slots = none ∧ q.slots = none) ∨
    (∃ a b, p.slots = some a ∧ q.slots = some b ∧ a.share core = b.share core) := by
  obtain ⟨-, -, hslot, -⟩ := Share.mk.inj h
  cases hp : p.slots with
  | none =>
    rw [hp] at hslot
    exact .inl ⟨rfl, Option.map_eq_none_iff.mp hslot.symm⟩
  | some a =>
    rw [hp] at hslot
    obtain ⟨b, hq, hshare⟩ := Option.map_eq_some_iff.mp hslot.symm
    exact .inr ⟨a, b, rfl, hq, hshare.symm⟩

/-- Records are delivered alike on a core by pipelines that are alike for
it. -/
theorem deliver_congr (h : p.share core = q.share core)
    (hcore : p.outlet.channel.laneOf core = core) (r : Record) :
    (p.deliver core r).1 = (q.deliver core r).1 ∧
    (p.deliver core r).2.share core = (q.deliver core r).2.share core := by
  have hdirect := emitDirect_congr h hcore r
  rw [deliver, deliver]
  rcases slots_cases h with ⟨hp, hq⟩ | ⟨a, b, hp, hq, hslot⟩
  · rw [hp, hq]
    exact hdirect
  · obtain ⟨hsettings, hbatch, -, hlane⟩ := Share.mk.inj h
    obtain ⟨hresult, hshare⟩ := Aggregation.absorb_congr hslot r
    -- Both pipelines change in their slots only, and alike.
    have habsorbed : { p with slots := some (a.absorb core r).2 }.share core
        = { q with slots := some (b.absorb core r).2 }.share core := by
      dsimp only [share]
      rw [Option.map_some, Option.map_some, hshare, hsettings, hbatch, hlane]
    have henabled : q.settings.enabled = p.settings.enabled := by rw [hsettings]
    rw [hp, hq]
    dsimp only
    rw [henabled, ← hresult]
    split
    · exact afterAbsorb_congr habsorbed hcore _
    · exact hdirect

/-- At rate zero a notification is handled alike by pipelines that are
alike for its core. -/
theorem trace_congr (h : p.share core = q.share core)
    (hcore : p.outlet.channel.laneOf core = core) (hrate : p.settings.rate = 0)
    (n : Notification) (now : UInt64) :
    (p.trace core n now).1 = (q.trace core n now).1 ∧
    (p.trace core n now).2.share core = (q.trace core n now).2.share core := by
  have hsettings : p.settings = q.settings := (Share.mk.inj h).1
  have hkept : ∀ s : Sampler, (s.next 0).1 = true := fun s => rfl
  rw [trace_eq, trace_eq, ← hsettings, hrate, hkept, hkept, if_pos rfl, if_pos rfl]
  split
  · exact ⟨rfl, h⟩
  · exact deliver_congr (show p.sampled.share core = q.sampled.share core from h) hcore _

/-- A pass over a core is made alike by pipelines that are alike for it. -/
theorem flushCore_congr (h : p.share core = q.share core)
    (hcore : p.outlet.channel.laneOf core = core) :
    (p.flushCore core).1 = (q.flushCore core).1 ∧
    (p.flushCore core).2.share core = (q.flushCore core).2.share core := by
  rw [flushCore, flushCore]
  rcases slots_cases h with ⟨hp, hq⟩ | ⟨a, b, hp, hq, hslot⟩
  · rw [hp, hq]
    exact ⟨rfl, h⟩
  · obtain ⟨hsettings, hbatch, -, hlane⟩ := Share.mk.inj h
    obtain ⟨hanswer, hshare⟩ := Aggregation.drain_congr hslot p.batch
    have htaken : a.taken core p.batch = b.taken core p.batch := by
      rw [Aggregation.taken, Aggregation.taken, hanswer]
    -- The report, the slots and the offers are all read off the answer of the slots.
    obtain ⟨hra, hsa, hla⟩ := Outlet.flushCore_parts a p.outlet p.batch core
    obtain ⟨hrb, hsb, hlb⟩ := Outlet.flushCore_parts b q.outlet p.batch core
    rw [hp, hq, ← hbatch]
    refine ⟨by dsimp only; rw [hra, hrb, hanswer], ?_⟩
    dsimp only [share]
    rw [Option.map_some, Option.map_some, hsa, hsb, hshare, hla, hlb, htaken,
      Channel.publishAll_congr hlane hcore, hsettings]

/-- What a core answers, and its share afterwards, depend on its share. -/
theorem work_congr {lanes : Nat} (h : p.share core = q.share core) (hparted : p.Parted lanes)
    (hcore : core < lanes) (x : Work) :
    (p.work core x).1 = (q.work core x).1 ∧
    (p.work core x).2.share core = (q.work core x).2.share core := by
  have hlane := Channel.laneOf_of_lt hparted.shape_eq hcore
  cases x with
  | trace n now =>
    obtain ⟨hanswer, hshare⟩ := trace_congr h hlane hparted.rate_eq n now
    exact ⟨congrArg Answer.outcome hanswer, hshare⟩
  | flush =>
    obtain ⟨hanswer, hshare⟩ := flushCore_congr h hlane
    exact ⟨congrArg Answer.report hanswer, hshare⟩

end

/-- Any work on a core is within its frame. -/
theorem onlyOn_work (p : Pipeline) (core : Nat) (x : Work) : OnlyOn core p (p.work core x).2 := by
  cases x with
  | trace n now => exact onlyOn_trace p core n now
  | flush => exact onlyOn_flushCore p core

namespace Parted

variable {lanes : Nat} {p : Pipeline} (h : p.Parted lanes)
include h

/-- Work on any core keeps the lanes apart and the rate at zero. -/
theorem work (core : Nat) (x : Work) : (p.work core x).2.Parted lanes where
  shape_eq := (onlyOn_work p core x).shape_eq.trans h.shape_eq
  rate_eq := (congrArg Settings.rate (onlyOn_work p core x).settings_eq).trans h.rate_eq

/-- Work on another core cannot be seen. -/
theorem share_work_of_ne {core other : Nat} (hcore : core < lanes) (hne : other ≠ core)
    (x : Work) : (p.work core x).2.share other = p.share other := by
  have hframe := onlyOn_work p core x
  have hlane := Channel.laneOf_of_lt h.shape_eq hcore
  rw [share, hframe.settings_eq, hframe.batch_eq, hframe.slot_eq other hne, Channel.share,
    hframe.shape_eq, hframe.lane_eq other (hlane.symm ▸ hne)]
  rfl

end Parted

/-! ### Whole runs -/

/-- A run answers to a core as if only the work on this core was done, in
whatever state the other cores are. -/
theorem run_agrees {lanes core : Nat} {xs : List (Nat × Work)} (hxs : ∀ x ∈ xs, x.1 < lanes)
    {p q : Pipeline} (hparted : p.Parted lanes) (h : p.share core = q.share core) :
    onCore core (p.run xs).1 = (q.run (onCore core xs)).1 ∧
    (p.run xs).2.share core = (q.run (onCore core xs)).2.share core := by
  induction xs generalizing p q with
  | nil => exact ⟨rfl, h⟩
  | cons x xs ih =>
    obtain ⟨hx, hrest⟩ := List.forall_mem_cons.mp hxs
    obtain ⟨other, x⟩ := x
    have hnext := hparted.work other x
    by_cases heq : other = core
    · -- Both runs do this, with the same answer.
      subst heq
      obtain ⟨hanswer, hshare⟩ := work_congr h hparted hx x
      obtain ⟨hanswers, hend⟩ := ih hrest hnext hshare
      rw [onCore_cons_self, run_cons, run_cons]
      dsimp only
      rw [onCore_cons_self, hanswers, hanswer]
      exact ⟨rfl, hend⟩
    · -- Only one run does this, and the core does not see it.
      have hshare := hparted.share_work_of_ne hx (Ne.symm heq) x
      obtain ⟨hanswers, hend⟩ := ih hrest hnext (hshare.trans h)
      rw [onCore_cons_of_ne heq, run_cons]
      dsimp only
      rw [onCore_cons_of_ne heq]
      exact ⟨hanswers, hend⟩

/-- The store and the queue of a core, behind their lock. -/
def slotOf (p : Pipeline) (core : Nat) : Option (Guarded Slot) :=
  p.slots.bind fun a => a.cores.get? core

/-- The slot of a core is part of its share. -/
theorem slotOf_eq (p : Pipeline) (core : Nat) :
    p.slotOf core = (p.share core).slot.bind Prod.snd := by
  rw [slotOf, share, Option.bind_map]
  rfl

/-- A pipeline that aggregates, with anything done with it before, that
now keeps every match, and two runs of notifications and passes on its
cores.

If both runs do the same on one core, in the same order, they answer
the same to it and leave the same in its slot and in its lane, whatever
they do on the other cores, and however all this is interleaved. -/
theorem cores_isolated {c : Config} (haggregating : c.isAggregating) (cores : Nat)
    (before : List Operation) (hrate : ((new c cores).afterAll before).settings.rate = 0)
    (core : Nat) (xs ys : List (Nat × Work)) (hxs : ∀ x ∈ xs, x.1 < cores)
    (hys : ∀ y ∈ ys, y.1 < cores) (hsame : onCore core xs = onCore core ys) :
    let p := (new c cores).afterAll before
    onCore core (p.run xs).1 = onCore core (p.run ys).1 ∧
    (p.run xs).2.slotOf core = (p.run ys).2.slotOf core ∧
    (p.run xs).2.outlet.channel.waitingIn core = (p.run ys).2.outlet.channel.waitingIn core := by
  intro p
  have hparted : p.Parted (max cores 1) :=
    ⟨(shape_afterAll _ before).trans (shape_new haggregating cores), hrate⟩
  have hlt : ∀ n, n < cores → n < max cores 1 := fun n hn =>
    Nat.lt_of_lt_of_le hn (Nat.le_max_left ..)
  -- Each run agrees with the one that does the work on this core only.
  obtain ⟨hanswers, hshare⟩ := run_agrees (fun x hx => hlt _ (hxs x hx)) hparted
    (rfl : p.share core = p.share core)
  obtain ⟨hanswers', hshare'⟩ := run_agrees (fun y hy => hlt _ (hys y hy)) hparted
    (rfl : p.share core = p.share core)
  rw [← hsame] at hanswers' hshare'
  have halike := hshare.trans hshare'.symm
  have hlane := (Share.mk.inj halike).2.2.2
  refine ⟨hanswers.trans hanswers'.symm, ?_, ?_⟩
  · rw [slotOf_eq, slotOf_eq, halike]
  · rw [Channel.waitingIn, Channel.waitingIn, (Prod.mk.inj hlane).2]

/-- Two notifications and a pass on the first core. In one run the second
core stores and flushes a record in between, in the other it stores one
when all is done. -/
theorem cores_isolated_interleaved :
    let n : Notification := { (default : Notification) with eventKind := EventKind.rule.code }
    let xs : List (Nat × Work) :=
      [(0, .trace n 1), (1, .trace n 2), (1, .flush), (0, .trace n 3), (0, .flush)]
    let ys : List (Nat × Work) := [(0, .trace n 1), (0, .trace n 3), (0, .flush), (1, .trace n 4)]
    let p := (new Config.standard 2).afterAll [.update 0 (.ofParts 5 0)]
    Config.standard.isAggregating ∧ p.settings.rate = 0 ∧ (∀ x ∈ xs, x.1 < 2) ∧
    (∀ y ∈ ys, y.1 < 2) ∧ onCore 0 xs = onCore 0 ys ∧
    onCore 0 (p.run xs).1 = onCore 0 (p.run ys).1 ∧
    (p.run ys).1 = [(0, .outcome .aggregated), (0, .outcome .merged), (0, .report ⟨1, 0, 0⟩),
      (1, .outcome .aggregated)] ∧
    (p.run xs).2.outlet.channel.waitingIn 0 = (p.run ys).2.outlet.channel.waitingIn 0 ∧
    ((p.run ys).2.outlet.channel.waitingIn 0).map Record.count = [2] := by
  intro n xs ys p
  have hxs : ∀ x ∈ xs, x.1 < 2 := by simp [xs]
  have hys : ∀ y ∈ ys, y.1 < 2 := by simp [ys]
  obtain ⟨hanswers, -, hlane⟩ := cores_isolated (c := Config.standard) rfl 2
    [.update 0 (.ofParts 5 0)] rfl 0 xs ys hxs hys rfl
  exact ⟨rfl, rfl, hxs, hys, rfl, hanswers, by decide +kernel, hlane, by decide +kernel⟩

end Pipeline

end RuleTrace
