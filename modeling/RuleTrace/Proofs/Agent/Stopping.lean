import RuleTrace.Agent.Stopping
import RuleTrace.Proofs.Agent.Accounting
import RuleTrace.Proofs.Pipeline.Draining

/-!
# `RuleTrace.Proofs.Agent.Stopping`: what an agent has printed in the end

An agent comes to rest in the order in which nothing is lost: the slots
are drained while the output is open, and what waits there is read after
it was closed. `Stopping.Holds` is the account of an agent on its way,
together with what is known of the cores that were passed by. Every
move keeps it, whoever makes it (`Holds.move`), and every step leaves
less to be done (`Stopping.stepsLeft`).

So the law of the pipeline is a law of the agent: what was admitted is
shown by the lines of the output, or was refused by the lanes, or is
still stored on a core that was given up because of its lock
(`stop_shows_all`). With nobody else at work the steps lead to where
`Agent.stop` goes at once (`Stopping.run_alone`).
-/

set_option autoImplicit false

namespace RuleTrace

namespace Parts

variable {format : OutputFormat} {n : Nat} {p : Parts} (stamp : UInt64 → String)

/-! ### The end of the printing -/

/-- The records that are left are printed, all of them. -/
theorem printAll_shows {printer : Printer} (hshows : printer.Shows format n) (rs : List Record)
    (hfits : n + counted rs < UInt64.size) :
    (printAll stamp rs printer).2.Shows format (n + counted rs) := by
  induction rs generalizing printer n with
  | nil => exact hshows
  | cons r rs ih =>
    rw [counted_cons, ← Nat.add_assoc] at hfits ⊢
    obtain ⟨next, hwrite, hshown⟩ := hshows.write stamp (r := r) (by omega)
    rw [printAll, hwrite]
    exact ih hshown hfits

/-- A printer without a line held back is given up as it is. -/
theorem givenUp_shows {printer : Printer} (hheld : printer.held = none)
    (hshows : printer.Shows format n) :
    (givenUp stamp printer).held = none ∧ (givenUp stamp printer).Shows format n := by
  have hclose : printer.close stamp = printer.sink := by
    rw [Printer.close, hheld]
    rfl
  have hsame : givenUp stamp printer = printer := by
    rw [givenUp, hclose, ← hheld]
  rw [hsame]
  exact ⟨hheld, hshows⟩

/-- The printer ends with everything printed that waited in the
lanes. -/
theorem finishPrinting_shows (hprinting : p.printing = true) (hshows : p.printer.Shows format n)
    (hfits : n + counted p.pipeline.close.receiveAll.1 < UInt64.size) :
    (p.finishPrinting stamp).2.pipeline = p.pipeline.close.receiveAll.2 ∧
      (p.finishPrinting stamp).2.printing = false ∧
      (p.finishPrinting stamp).2.printer.held = none ∧
      (p.finishPrinting stamp).2.printer.Shows format
        (n + counted p.pipeline.close.receiveAll.1) := by
  obtain ⟨printer, hflush, hnone, hflushed⟩ := (printAll_shows stamp hshows _ hfits).flush stamp
  rw [finishPrinting, if_pos hprinting]
  dsimp only
  rw [hflush]
  exact ⟨rfl, rfl, givenUp_shows stamp hnone hflushed⟩

/-- Whoever prints or exports touches no slot. -/
theorem pipeline_aside (h : p.pipeline.Sound) (held : Nat → Bool) {x : Action}
    (hx : x = .print ∨ x = .flushOutput ∨ x = .report) :
    ∃ c, (((p.withCoreLocks held).after stamp x).withCoreLocks fun _ => false).pipeline
      = p.pipeline.withChannel c := by
  -- None of the three comes near the slots or their locks.
  have hchannel : ∃ c, ((p.withCoreLocks held).after stamp x).pipeline
      = (p.pipeline.withCoreLocks held).withChannel c := by
    rcases hx with rfl | rfl | rfl
    · exact pipeline_print (p.withCoreLocks held) stamp
    · refine ⟨p.pipeline.outlet.channel, ?_⟩
      rw [after, flushOutput_eq]
      rfl
    · refine ⟨p.pipeline.outlet.channel, ?_⟩
      rw [after]
      split <;> rfl
  obtain ⟨c, hc⟩ := hchannel
  refine ⟨c, ?_⟩
  rw [withCoreLocks, hc]
  exact congrArg (fun q : Pipeline => q.withChannel c) (h.withCoreLocks_back held)

/-- Once nothing is printed any more, whoever would print or export leaves
pipeline and printer alone. -/
theorem after_aside_of_closed (hprinting : p.printing = false) {x : Action}
    (hx : x = .print ∨ x = .flushOutput ∨ x = .report) :
    (∃ exported, p.after stamp x = { p with exported := exported }) ∧ p.traffic x = .empty := by
  have hnot : ¬ p.printing = true := by
    rw [hprinting]
    exact Bool.false_ne_true
  rcases hx with rfl | rfl | rfl
  · refine ⟨⟨p.exported, ?_⟩, ?_⟩
    · rw [after, print, if_neg hnot]
    · rw [traffic, if_neg hnot]
  · refine ⟨⟨p.exported, ?_⟩, rfl⟩
    rw [after, flushOutput, if_neg hnot]
  · refine ⟨?_, rfl⟩
    rw [after]
    split
    · exact ⟨_, rfl⟩
    · exact ⟨p.exported, rfl⟩

end Parts

namespace Agent

variable {ν : Type}

/-- Whether the output was not closed yet. -/
def Stage.isOpen : Stage → Bool
  | .draining | .closing => true
  | .reporting | .done => false

/-- How many steps a stage and those after it take, with so many for the
slots. -/
def Stage.steps (slots : Nat) : Stage → Nat
  | .draining => slots + 3
  | .closing => 2
  | .reporting => 1
  | .done => 0

namespace Stopping

/-- A bound for the steps that are left. -/
def stepsLeft (s : Stopping ν) : Nat :=
  s.stage.steps ((s.agent.parts.map fun p => s.draining.stepsLeft p.pipeline).getD 0)

/-- An agent with no steps left is at rest. -/
theorem stage_of_stepsLeft {s : Stopping ν} (h : s.stepsLeft = 0) : s.stage = .done := by
  rw [stepsLeft] at h
  cases hstage : s.stage with
  | done => rfl
  | _ =>
    rw [hstage, Stage.steps] at h
    omega

/-- What passes the borders of the pipeline in the next step. -/
def stepTraffic (s : Stopping ν) : Traffic :=
  match s.agent.parts, s.stage with
  | some p, .draining => s.draining.traffic p.pipeline
  | some p, .closing => p.pipeline.close.traffic .receiveAll
  | _, _ => .empty

/-- What passes them in a move. -/
def traffic (s : Stopping ν) : Move → Traffic
  | .goOn _ => s.stepTraffic
  | .print => s.agent.trafficIn ⟨fun _ => false, .print⟩
  | .flushOutput => s.agent.trafficIn ⟨fun _ => false, .flushOutput⟩
  | .report held => s.agent.trafficIn ⟨held, .report⟩

/-- What passes them in moves, one after another. -/
def trafficOf (a : Arithmetic ν) (stamp : UInt64 → String) : List Move → Stopping ν → Traffic
  | [], _ => .empty
  | m :: ms, s => (s.traffic m).append (trafficOf a stamp ms (s.move a stamp m))

/-- An agent that comes to rest, with parts that account for traffic. -/
structure Holds (format : OutputFormat) (limits : Nat × Option Nat) (t : Traffic)
    (s : Stopping ν) (p : Parts) : Prop where
  parts_eq : s.agent.parts = some p
  accounted : p.Accounted format limits t
  printing_eq : p.printing = s.stage.isOpen
  ready : s.draining.Ready p.pipeline
  passed : s.draining.Passed p.pipeline
  drained : s.stage ≠ .draining → s.draining.cores = []
  closed : s.stage.isOpen = false → p.pipeline.waiting = [] ∧ p.printer.held = none

variable (a : Arithmetic ν) (stamp : UInt64 → String) {format : OutputFormat}
  {limits : Nat × Option Nat} {t : Traffic} {s : Stopping ν} {p : Parts}

namespace Holds

/-- Somebody else prints or exports. -/
theorem meanwhile (h : s.Holds format limits t p) (turn : Turn)
    (hturn : turn.action = .print ∨ turn.action = .flushOutput ∨ turn.action = .report)
    (hfits : t.admitted.length + (s.agent.trafficIn turn).admitted.length < UInt64.size) :
    ∃ q, (s.meanwhile a stamp turn).Holds format limits (t.append (s.agent.trafficIn turn)) q ∧
      (s.meanwhile a stamp turn).stepsLeft = s.stepsLeft := by
  have htraffic : s.agent.trafficIn turn = p.trafficIn turn := by
    rw [trafficIn, h.parts_eq]
    rfl
  have hparts : (s.meanwhile a stamp turn).agent.parts = some
      (((p.withCoreLocks turn.held).after stamp turn.action).withCoreLocks fun _ => false) := by
    show (s.agent.take a stamp turn).parts = _
    rw [parts_take, h.parts_eq]
    rfl
  obtain ⟨c, hpipeline⟩ := p.pipeline_aside stamp h.accounted.sound turn.held hturn
  rw [htraffic] at hfits ⊢
  -- Before the output is closed the account goes on, and later nothing passes.
  have hq : ∃ q, (s.meanwhile a stamp turn).agent.parts = some q ∧
      q.Accounted format limits (t.append (p.trafficIn turn)) ∧
      q.printing = s.stage.isOpen ∧ q.pipeline = p.pipeline.withChannel c ∧
      (s.stage.isOpen = false → q.pipeline.waiting = [] ∧ q.printer.held = none) := by
    cases hopen : s.stage.isOpen with
    | true =>
      obtain ⟨hprinting, haccounted⟩ :=
        h.accounted.after stamp (h.printing_eq.trans hopen) turn hfits
      exact ⟨_, hparts, haccounted, hprinting, hpipeline, fun hfalse => Bool.noConfusion hfalse⟩
    | false =>
      have hclosed : (p.withCoreLocks turn.held).printing = false := h.printing_eq.trans hopen
      obtain ⟨⟨exported, hafter⟩, hnone⟩ := (p.withCoreLocks turn.held).after_aside_of_closed stamp
        hclosed hturn
      have hback := h.accounted.accounts_back turn.held
      rw [hafter] at hparts
      refine ⟨_, hparts, ?_, hclosed, ?_, fun _ => ?_⟩
      · rw [Parts.trafficIn, hnone]
        exact h.accounted.next_of_shows hback rfl h.accounted.shows
      · rw [← hpipeline, hafter]
      · exact h.closed hopen
  obtain ⟨q, hparts, haccounted, hprinting, hpipeline, hclosed⟩ := hq
  refine ⟨q, ⟨hparts, haccounted, hprinting, ?_, ?_, h.drained, hclosed⟩, ?_⟩
  · rw [hpipeline]
    exact h.ready.withChannel c
  · rw [hpipeline]
    exact h.passed
  · show s.stage.steps _ = s.stage.steps _
    rw [hparts, h.parts_eq, Option.map_some, Option.map_some, hpipeline]
    rfl

/-- A step in emptying the slots. -/
theorem drain (h : s.Holds format limits t p) (hstage : s.stage = .draining)
    (hcores : s.draining.cores ≠ []) (contended : Bool) :
    ∃ q, (s.drain contended).Holds format limits (t.append (s.draining.traffic p.pipeline)) q ∧
      (s.drain contended).stepsLeft < s.stepsLeft := by
  have haccounts := h.ready.accounts_step contended
  have hdrain : s.drain contended = { s with
      agent := { s.agent with
        parts := some { p with pipeline := (s.draining.step contended p.pipeline).2 } }
      draining := (s.draining.step contended p.pipeline).1 } := by
    rw [Stopping.drain, h.parts_eq]
  have hopen : s.stage.isOpen = true := by rw [hstage]; rfl
  rw [hdrain]
  refine ⟨{ p with pipeline := (s.draining.step contended p.pipeline).2 },
    ⟨rfl, h.accounted.next_of_shows haccounts (s.draining.delivered_traffic p.pipeline)
      h.accounted.shows, h.printing_eq, h.ready.step contended,
      h.ready.passed_step h.passed contended, fun hnot => absurd hstage hnot,
      fun hclosed => ?_⟩, ?_⟩
  · rw [hopen] at hclosed
    exact Bool.noConfusion hclosed
  · -- The stages that come later keep their steps.
    have hless := h.ready.stepsLeft_step hcores contended
    show s.stage.steps _ < s.stage.steps _
    rw [hstage, h.parts_eq]
    exact Nat.add_lt_add_right hless 3

/-- The output is closed, and what waits in it is printed. -/
theorem close (h : s.Holds format limits t p) (hstage : s.stage = .closing)
    (hfits : t.admitted.length < UInt64.size) :
    ∃ q, Holds format limits (t.append (p.pipeline.close.traffic .receiveAll))
      { s with agent := close a stamp s.agent, stage := .reporting } q := by
  have hprinting : p.printing = true := h.printing_eq.trans (by rw [hstage]; rfl)
  have hlaw := h.accounted.law
  have hread : p.pipeline.Accounts (p.pipeline.close.traffic .receiveAll)
      p.pipeline.close.receiveAll.2 := by
    have hclose := Pipeline.accounts_after h.accounted.sound .close (by
      show p.pipeline.heldInAll + 0 < _
      omega)
    refine hclose.trans (Pipeline.accounts_after hclose.sound .receiveAll ?_)
    have hheld : p.pipeline.heldInAll + 0 = p.pipeline.close.heldInAll + 0 + 0 := hclose.law
    show p.pipeline.close.heldInAll + 0 < _
    omega
  -- What is read last was held, so its counts are part of what was admitted.
  have hheld : p.pipeline.heldInAll + 0 = p.pipeline.close.receiveAll.2.heldInAll
      + counted p.pipeline.close.receiveAll.1 + 0 := hread.law
  obtain ⟨hpipeline, hends, hnone, hshown⟩ :=
    Parts.finishPrinting_shows stamp hprinting h.accounted.shows (by omega)
  have hparts : (Stopping.close a stamp s.agent).parts = some (p.finishPrinting stamp).2 := by
    rw [Stopping.close, h.parts_eq]
  refine ⟨_, hparts, h.accounted.next (hpipeline ▸ hread) hshown, hends, ?_, ?_, ?_, ?_⟩
  · rw [hpipeline]
    exact h.ready.withChannel _
  · rw [hpipeline]
    exact h.passed
  · exact fun _ => h.drained (by rw [hstage]; exact Stage.noConfusion)
  · rw [hpipeline]
    exact fun _ => ⟨Channel.waiting_drain _, hnone⟩

/-- The counters are exported a last time. -/
theorem finish (h : s.Holds format limits t p) (hstage : s.stage = .reporting) :
    ∃ q, Holds format limits t { s with agent := finish a s.agent, stage := .done } q := by
  obtain ⟨exported, hreport⟩ := parts_report a h.parts_eq
  have hparts : (Stopping.finish a s.agent).parts
      = some { p with exported := exported, reporting := false } := by
    rw [Stopping.finish, withParts, hreport]
    rfl
  refine ⟨_, hparts, ⟨h.accounted.sound, h.accounted.limits_eq, h.accounted.shows,
    h.accounted.law⟩, h.printing_eq.trans (by rw [hstage]; rfl), h.ready, h.passed, ?_, ?_⟩
  · exact fun _ => h.drained (by rw [hstage]; exact Stage.noConfusion)
  · exact fun _ => h.closed (by rw [hstage]; rfl)

/-- The next step, whichever it is. -/
theorem goOn (h : s.Holds format limits t p) (contended : Bool)
    (hfits : t.admitted.length < UInt64.size) :
    ∃ q, (s.goOn a stamp contended).Holds format limits (t.append s.stepTraffic) q ∧
      (s.goOn a stamp contended).stepsLeft ≤ s.stepsLeft - 1 := by
  rw [Stopping.goOn, stepTraffic, h.parts_eq]
  cases hstage : s.stage with
  | draining =>
    dsimp only
    by_cases hcores : s.draining.cores = []
    · -- Nothing is left to be drained, and the stage is over.
      have hnone : s.draining.traffic p.pipeline = .empty := by
        rw [Draining.traffic, hcores]
      rw [if_pos hcores, hnone, Traffic.append_empty]
      refine ⟨p, ⟨h.parts_eq, h.accounted, h.printing_eq.trans (by rw [hstage]; rfl), h.ready,
        h.passed, fun _ => hcores, fun hclosed => Bool.noConfusion hclosed⟩, ?_⟩
      show 2 ≤ s.stage.steps _ - 1
      rw [hstage, Stage.steps]
      omega
    · rw [if_neg hcores]
      obtain ⟨q, hq, hless⟩ := h.drain hstage hcores contended
      exact ⟨q, hq, Nat.le_sub_one_of_lt hless⟩
  | closing =>
    obtain ⟨q, hq⟩ := h.close a stamp hstage hfits
    refine ⟨q, hq, ?_⟩
    show 1 ≤ s.stage.steps _ - 1
    rw [hstage]
    exact Nat.le_refl 1
  | reporting =>
    obtain ⟨q, hq⟩ := h.finish a hstage
    dsimp only
    rw [Traffic.append_empty]
    exact ⟨q, hq, Nat.zero_le _⟩
  | done =>
    dsimp only
    rw [Traffic.append_empty, stepsLeft, hstage]
    exact ⟨p, h, Nat.le_refl 0⟩

/-- Every move, whoever makes it. -/
theorem move (h : s.Holds format limits t p) (m : Move)
    (hfits : t.admitted.length + (s.traffic m).admitted.length < UInt64.size) :
    ∃ q, (s.move a stamp m).Holds format limits (t.append (s.traffic m)) q ∧
      (s.move a stamp m).stepsLeft ≤ s.stepsLeft - m.isStep.toNat := by
  -- Whoever prints or exports leaves as much to be done as there was.
  have haside : ∀ turn : Turn,
      turn.action = .print ∨ turn.action = .flushOutput ∨ turn.action = .report →
      t.admitted.length + (s.agent.trafficIn turn).admitted.length < UInt64.size →
      ∃ q, (s.meanwhile a stamp turn).Holds format limits (t.append (s.agent.trafficIn turn)) q ∧
        (s.meanwhile a stamp turn).stepsLeft ≤ s.stepsLeft := by
    intro turn hturn hfits
    obtain ⟨q, hq, hsame⟩ := h.meanwhile a stamp turn hturn hfits
    exact ⟨q, hq, Nat.le_of_eq hsame⟩
  cases m with
  | goOn contended => exact h.goOn a stamp contended (by omega)
  | print => exact haside ⟨fun _ => false, .print⟩ (.inl rfl) hfits
  | flushOutput => exact haside ⟨fun _ => false, .flushOutput⟩ (.inr (.inl rfl)) hfits
  | report held => exact haside ⟨held, .report⟩ (.inr (.inr rfl)) hfits

/-- A core is given up only when somebody else holds its lock. -/
theorem givenUp_move (h : s.Holds format limits t p) {m : Move} (hm : m ≠ .goOn true) :
    (s.move a stamp m).draining.givenUp = s.draining.givenUp := by
  cases m with
  | goOn contended =>
    cases contended with
    | true => exact absurd rfl hm
    | false =>
      rw [Stopping.move, Stopping.goOn]
      cases s.stage with
      | draining =>
        dsimp only
        split
        · rfl
        · rw [Stopping.drain, h.parts_eq]
          -- A step that gets the lock gives no core up.
          exact h.ready.givenUp_step
      | closing => rfl
      | reporting => rfl
      | done => rfl
  | print => rfl
  | flushOutput => rfl
  | report held => rfl

/-- A run of moves. Each step in it leaves less to be done, whatever the
others do meanwhile. -/
theorem run (h : s.Holds format limits t p) (moves : List Move)
    (hfits : t.admitted.length + (s.trafficOf a stamp moves).admitted.length < UInt64.size) :
    ∃ q, (s.run a stamp moves).Holds format limits (t.append (s.trafficOf a stamp moves)) q ∧
      (s.run a stamp moves).stepsLeft ≤ s.stepsLeft - moves.countP Move.isStep ∧
      (.goOn true ∉ moves → (s.run a stamp moves).draining.givenUp = s.draining.givenUp) := by
  induction moves generalizing s p t with
  | nil =>
    rw [trafficOf, Traffic.append_empty]
    exact ⟨p, h, Nat.le_refl _, fun _ => rfl⟩
  | cons m moves ih =>
    rw [trafficOf, Traffic.length_admitted_append] at hfits
    obtain ⟨q, hq, hless⟩ := h.move a stamp m (by omega)
    obtain ⟨r, hr, hrest, hgivenUp⟩ := ih hq (by
      rw [Traffic.length_admitted_append]
      omega)
    rw [Traffic.append_assoc] at hr
    refine ⟨r, hr, ?_, fun hnot => ?_⟩
    · -- Each step of the agent itself takes one off the bound, and other moves take nothing.
      have hcount : (m :: moves).countP Move.isStep
          = moves.countP Move.isStep + m.isStep.toNat := by
        rw [List.countP_cons]
        cases m.isStep <;> rfl
      show ((s.move a stamp m).run a stamp moves).stepsLeft ≤ _
      omega
    · rw [List.mem_cons, not_or] at hnot
      exact (hgivenUp hnot.2).trans (h.givenUp_move a stamp fun he => hnot.1 he.symm)

end Holds

/-- An agent that runs can come to rest, whatever it has accounted for. -/
theorem holds_start {g : Agent ν} (hparts : g.parts = some p) (hprinting : p.printing = true)
    (h : p.Accounted format limits t) (hbatch : 0 < limits.1) (hattempts : ∀ n ∈ limits.2, 0 < n) :
    ∃ q, (start g).Holds format limits t q := by
  have hlimits := Prod.mk.inj h.limits_eq
  have hdraining : (start g).draining = .start p.pipeline := by
    rw [start, pipeline?, hparts]
    rfl
  have hstage : (start g).stage = .draining := by
    rw [start, hparts]
    rfl
  -- Stopping ends the reading and the timetable, and no record is touched by that.
  have hagent : (start g).agent.parts
      = some { p with source := none, timetable := .empty p.timetable.now } := by
    rw [start, withParts, hparts]
    rfl
  refine ⟨_, hagent, ⟨h.sound, h.limits_eq, h.shows, h.law⟩, ?_, ?_, ?_, ?_, ?_⟩
  · rw [hstage]
    exact hprinting
  · rw [hdraining]
    exact Draining.ready_start h.sound (hlimits.1 ▸ hbatch) (by rwa [← hlimits.2] at hattempts)
  · rw [hdraining]
    exact Draining.passed_start p.pipeline
  · exact fun hnot => absurd hstage hnot
  · rw [hstage]
    exact fun hclosed => Bool.noConfusion hclosed

/-- No core was given up yet. -/
theorem givenUp_start (g : Agent ν) : (start g).draining.givenUp = [] := by
  rw [start]
  cases g.pipeline? <;> rfl

/-- Each core is to be drained once. -/
theorem nodup_cores_start (g : Agent ν) : (start g).draining.cores.Nodup := by
  rw [start]
  cases g.pipeline? with
  | none => exact List.nodup_nil
  | some p => exact List.nodup_range

/-! ### With nobody else at work -/

/-- What an agent that comes to rest would be if all that is left were
done at once. -/
def atOnce (s : Stopping ν) : Agent ν :=
  match s.stage with
  | .draining => finish a (close a stamp (s.agent.withParts fun p =>
      { p with pipeline := p.pipeline.drainOver s.draining.cores }))
  | .closing => finish a (close a stamp s.agent)
  | .reporting => finish a s.agent
  | .done => s.agent

/-- Stopping an agent is doing all at once. -/
theorem atOnce_start {g : Agent ν} (hparts : g.parts = some p) :
    (start g).atOnce a stamp = g.stop a stamp := by
  obtain ⟨config, metrics, parts, stopped⟩ := g
  cases hparts
  rw [stop]
  dsimp only
  rw [p.pipeline.drainAll_eq_drainOver]
  rfl

/-- A step with nobody at the locks does not change what is left to be
done. -/
theorem Holds.atOnce_goOn (h : s.Holds format limits t p) (hnodup : s.draining.cores.Nodup) :
    (s.goOn a stamp false).atOnce a stamp = s.atOnce a stamp := by
  rw [Stopping.goOn]
  cases hstage : s.stage with
  | draining =>
    dsimp only
    by_cases hcores : s.draining.cores = []
    · -- No core is left, so draining what is left does nothing.
      have hsame : s.agent.withParts (fun p =>
          { p with pipeline := p.pipeline.drainOver s.draining.cores }) = s.agent := by
        rw [hcores, withParts, h.parts_eq, Option.map_some, Pipeline.drainOver_nil, ← h.parts_eq]
      rw [if_pos hcores, atOnce, atOnce, hstage]
      dsimp only
      rw [hsame]
    · -- One step of the drain is the beginning of what would be drained at once.
      have hstep := h.ready.drainOver_step hnodup
      rw [if_neg hcores, Stopping.drain, h.parts_eq, atOnce, atOnce, hstage]
      dsimp only
      rw [withParts, withParts, h.parts_eq, Option.map_some, Option.map_some, hstep]
  | closing =>
    dsimp only
    rw [atOnce, atOnce, hstage]
  | reporting =>
    dsimp only
    rw [atOnce, atOnce, hstage]
  | done => rfl

/-- Each core is still drained once. -/
theorem Holds.nodup_goOn (h : s.Holds format limits t p) (hnodup : s.draining.cores.Nodup) :
    (s.goOn a stamp false).draining.cores.Nodup := by
  rw [Stopping.goOn]
  cases s.stage with
  | draining =>
    dsimp only
    split
    · exact hnodup
    · rw [Stopping.drain, h.parts_eq]
      exact (h.ready.cores_step_sublist false).nodup hnodup
  | closing => exact hnodup
  | reporting => exact hnodup
  | done => exact hnodup

/-- A step admits nothing. -/
theorem admitted_stepTraffic (s : Stopping ν) : s.stepTraffic.admitted = [] := by
  rw [stepTraffic]
  split
  · rw [Draining.traffic]
    split
    · split <;> rfl
    · rfl
  · rfl
  · rfl

/-- With nobody else at work the steps lead to where stopping goes at
once. -/
theorem Holds.run_alone (h : s.Holds format limits t p) (hnodup : s.draining.cores.Nodup)
    (hfits : t.admitted.length < UInt64.size) {n : Nat} (hn : s.stepsLeft ≤ n) :
    (s.run a stamp (.replicate n (.goOn false))).agent = s.atOnce a stamp := by
  induction n generalizing s p t with
  | zero =>
    rw [atOnce, stage_of_stepsLeft (Nat.le_zero.mp hn)]
    rfl
  | succ n ih =>
    obtain ⟨q, hq, hless⟩ := h.goOn a stamp false hfits
    have hrest := ih hq (h.nodup_goOn a stamp hnodup) (by
      rw [Traffic.length_admitted_append, s.admitted_stepTraffic]
      exact hfits) (by omega)
    rw [List.replicate_succ]
    exact hrest.trans (h.atOnce_goOn a stamp hnodup)

/-- An agent at rest has all in its lines that it has accounted for. -/
theorem Holds.shownTotal?_eq (h : s.Holds format limits t p) (hdone : s.stage = .done) :
    shownTotal? format (s.agent.output stamp) = some (counted t.delivered) := by
  have hheld : p.printer.held = none := (h.closed (by rw [hdone]; rfl)).2
  have hclose : p.printer.close stamp = p.printer.sink := by
    rw [Printer.close, hheld]
    rfl
  rw [output, h.parts_eq]
  dsimp only
  rw [hclose]
  exact h.accounted.shows.shownTotal?_eq hheld

end Stopping

/-! ### From the start to the end -/

/-- What passes the borders of the pipeline from the start of an agent
until it is at rest. -/
def trafficOfRun (a : Arithmetic ν) (stamp : UInt64 → String) (c : Config) (w : Surroundings)
    (turns : List Turn) (moves : List Move) : Traffic :=
  ((started a c w).trafficOf a stamp turns).append
    ((Stopping.start ((started a c w).takeAll a stamp turns)).trafficOf a stamp moves)

/-- After any turns an agent can come to rest, and it accounts for what
passed in them. -/
theorem holds_takeAll (a : Arithmetic ν) (stamp : UInt64 → String) (c : Config)
    (w : Surroundings) (turns : List Turn) (hvalid : c.validate = .ok ())
    (hstart : ((Agent.new a c).start a w).1 = .ok ())
    (hfits : ((started a c w).trafficOf a stamp turns).admitted.length < UInt64.size) :
    let g := (started a c w).takeAll a stamp turns
    ∃ p q, g.parts = some p ∧
      (Stopping.start g).Holds c.format (Pipeline.new c (c.cpus.getD w.cores)).limits
        ((started a c w).trafficOf a stamp turns) q := by
  obtain ⟨source, hparts⟩ := parts_started a c w hstart
  -- At the start nothing has passed and nothing is held.
  have hbegin : Parts.Accounted c.format (Pipeline.new c (c.cpus.getD w.cores)).limits .empty
      { firstParts c (c.cpus.getD w.cores) w.time with source := source } := by
    refine ⟨Pipeline.sound_new c _, rfl, Printer.shows_new c.format c.dedupe, ?_⟩
    show 0 = (Pipeline.new c (c.cpus.getD w.cores)).heldInAll + 0 + 0
    rw [Pipeline.heldInAll, Pipeline.held_new]
  have hattempts : ∀ n ∈ (Pipeline.new c (c.cpus.getD w.cores)).limits.2, 0 < n := fun n hn =>
    Pipeline.attempts_new c _ n hn ▸ Config.attempts_pos hvalid
  obtain ⟨p, hp, hprinting, hrun⟩ := takeAll_accounted a stamp hparts rfl hbegin turns (by
    show 0 + _ < _
    omega)
  rw [Traffic.empty_append] at hrun
  obtain ⟨q, hq⟩ := Stopping.holds_start hp hprinting hrun (Pipeline.batch_new_pos ..) hattempts
  exact ⟨p, q, hp, hq⟩

/-- Any configuration that is accepted, any recording, anything that the
parts of the agent do, in any order and with the locks of the cores in
any state, then anything that the others do while the agent comes to
rest, and a sink that takes all lines; fewer than `2 ^ 64` matches are
admitted.

The agent comes to rest after a number of steps that the others cannot
put off. Then nothing waits in the lanes or with the printer. The counts
that the lines of the output show, those of the records that the lanes
refused and those of the records that are still stored add up to the
number of matches that the sampler admitted. Records are stored only on
cores that were given up because of their lock, and while no export of
the counters comes between, there is none. With nobody else at work, the
agent ends as `Agent.stop` leaves it. -/
theorem stop_shows_all (a : Arithmetic ν) (stamp : UInt64 → String) (c : Config)
    (w : Surroundings) (turns : List Turn) (moves : List Move)
    (hvalid : c.validate = .ok ()) (hstart : ((Agent.new a c).start a w).1 = .ok ())
    (hfits : (trafficOfRun a stamp c w turns moves).admitted.length < UInt64.size) :
    let t := trafficOfRun a stamp c w turns moves
    let g := (started a c w).takeAll a stamp turns
    let s := Stopping.start g
    let ended := s.run a stamp moves
    (s.stepsLeft ≤ moves.countP Move.isStep → ended.stage = .done) ∧
    (ended.stage = .done →
      ∃ p shown, ended.agent.parts = some p ∧ p.pipeline.waiting = [] ∧ p.printer.held = none ∧
        shownTotal? c.format (ended.agent.output stamp) = some shown ∧
        shown + counted p.pipeline.stored + counted t.refused = t.admitted.length ∧
        (∀ core, core ∉ ended.draining.givenUp → p.pipeline.storedOn core = []) ∧
        (.goOn true ∉ moves → p.pipeline.stored = [])) ∧
    ∀ n, s.stepsLeft ≤ n → (s.run a stamp (.replicate n (.goOn false))).agent = g.stop a stamp := by
  intro t g s ended
  have hlength : t.admitted.length = ((started a c w).trafficOf a stamp turns).admitted.length
      + (s.trafficOf a stamp moves).admitted.length := Traffic.length_admitted_append ..
  have hfits : t.admitted.length < UInt64.size := hfits
  obtain ⟨p, q, hp, hq⟩ : ∃ p q, g.parts = some p ∧ s.Holds c.format _ _ q :=
    holds_takeAll a stamp c w turns hvalid hstart (by omega)
  -- The account of the turns goes on while the agent comes to rest.
  obtain ⟨r, hr, hleft, hgivenUp⟩ : ∃ r, ended.Holds c.format _ t r ∧
      ended.stepsLeft ≤ s.stepsLeft - moves.countP Move.isStep ∧
      (.goOn true ∉ moves → ended.draining.givenUp = s.draining.givenUp) :=
    hq.run a stamp moves (by omega)
  refine ⟨fun hsteps => Stopping.stage_of_stepsLeft (by omega), fun hdone => ?_, fun n hn => ?_⟩
  · obtain ⟨hwaiting, hheld⟩ := hr.closed (by rw [hdone]; rfl)
    have hcores : ended.draining.cores = [] := hr.drained (by rw [hdone]; exact Stage.noConfusion)
    have hempty : ∀ core, core ∉ ended.draining.givenUp → r.pipeline.storedOn core = [] :=
      fun core => hr.passed core (by rw [hcores]; exact List.not_mem_nil)
    have hlaw := hr.accounted.law
    rw [Pipeline.heldInAll, Pipeline.held, hwaiting, tally_nil, tally_credit_all] at hlaw
    refine ⟨r, counted t.delivered, hr.parts_eq, hwaiting, hheld, hr.shownTotal?_eq stamp hdone,
      by omega, hempty, fun hfree => ?_⟩
    -- Nobody held a lock, so no core was given up.
    refine Pipeline.stored_eq_nil_of_storedOn fun core => hempty core ?_
    rw [hgivenUp hfree, show s.draining.givenUp = [] from Stopping.givenUp_start g]
    exact List.not_mem_nil
  · rw [hq.run_alone a stamp (Stopping.nodup_cores_start g) (by omega) hn]
    exact Stopping.atOnce_start a stamp hp

/-- Three matches on the second of two cores, whose lanes have room for
one record each. The lock is held when the second one comes, which goes
straight to the output. The other two come out in one pass while the
agent comes to rest, and the printer makes room between them. -/
theorem stop_shows_all_three_matches :
    let line := fun flow : String =>
      ("\x7b\"trace_type\":3,\"packet\":\x7b\"flow_hash\":" ++ flow ++ "\x7d\x7d\n").toList.map
        fun c => UInt8.ofNat c.toNat
    let c : Config := { Config.standard with
      replayPath := some "matches", healthAddress := "", laneCapacity := 1, flushBatch := 2 }
    let w : Surroundings :=
      ⟨0, 2, fun _ => true, fun _ => true, fun _ => some (line "1" ++ line "2" ++ line "3")⟩
    let stamp : UInt64 → String := fun _ => ""
    let turns : List Turn := [⟨fun _ => false, .deliver 5 1⟩, ⟨fun _ => true, .deliver 6 1⟩,
      ⟨fun _ => false, .print⟩, ⟨fun _ => false, .deliver 7 1⟩]
    let moves : List Move :=
      .replicate 4 (.goOn false) ++ .print :: .replicate 13 (.goOn false)
    let ended := (Stopping.start ((started .exact c w).takeAll .exact stamp turns)).run .exact stamp
      moves
    c.validate = .ok () ∧ ((Agent.new .exact c).start .exact w).1 = .ok () ∧
    (trafficOfRun .exact stamp c w turns moves).admitted.length = 3 ∧
    ended.stage = .done ∧ shownTotal? .text (ended.agent.output stamp) = some 3 := by
  intro line c w stamp turns moves ended
  have hvalid : c.validate = .ok () := rfl
  have hstart : ((Agent.new .exact c).start .exact w).1 = .ok () := rfl
  have hcount : (trafficOfRun .exact stamp c w turns moves).admitted.length = 3 := by
    decide +kernel
  have hrefused : counted (trafficOfRun .exact stamp c w turns moves).refused = 0 := by
    decide +kernel
  have hsteps : (Stopping.start ((started .exact c w).takeAll .exact stamp turns)).stepsLeft
      ≤ moves.countP Move.isStep := by decide +kernel
  have hfree : .goOn true ∉ moves := by
    intro hmem
    simp [moves] at hmem
  -- As many steps as are bounded bring the agent to its end.
  obtain ⟨hdone, hends, -⟩ := stop_shows_all .exact stamp c w turns moves hvalid hstart
    (by rw [hcount]; decide)
  obtain ⟨p, shown, -, -, -, hshown, htotal, -, hstored⟩ := hends (hdone hsteps)
  rw [hstored hfree, hcount, hrefused] at htotal
  exact ⟨hvalid, hstart, hcount, hdone hsteps, hshown.trans (congrArg some htotal)⟩

end Agent

end RuleTrace
