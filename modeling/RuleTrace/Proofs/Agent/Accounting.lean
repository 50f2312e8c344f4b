import RuleTrace.Proofs.Agent.Parts
import RuleTrace.Proofs.Output.Printer
import RuleTrace.Proofs.Pipeline.Locks

/-!
# `RuleTrace.Proofs.Agent.Accounting`: what an agent prints while it runs

`Parts.traffic` is what passes the borders of the pipeline when a part
of a running agent does something. `Parts.Accounted` is the account of
what passed them so far: a match that was admitted is held as a record
in a slot or in a lane, or it was refused by the lanes, or it was
delivered, and then the printer shows it.

Whatever is done, in whatever state the locks of the cores are, the
account goes on (`Accounted.after`), and so it does over a whole run
(`takeAll_accounted`). It holds while the sink takes all lines, and while
fewer than `2 ^ 64` matches are admitted, so that no count saturates.
-/

set_option autoImplicit false

namespace RuleTrace

namespace Traffic

/-- Nothing follows. -/
@[simp] theorem append_empty (t : Traffic) : t.append .empty = t := by
  simp only [append, empty, List.append_nil]

/-- Nothing came before. -/
@[simp] theorem empty_append (t : Traffic) : empty.append t = t := rfl

/-- What is admitted adds up. -/
theorem length_admitted_append (t u : Traffic) :
    (t.append u).admitted.length = t.admitted.length + u.admitted.length := List.length_append

/-- What follows what follows. -/
theorem append_assoc (t u v : Traffic) : (t.append u).append v = t.append (u.append v) := by
  simp only [append, List.append_assoc]

end Traffic

namespace Parts

/-- The item that the recording delivers next. -/
def next? (p : Parts) : Option Replay.Item :=
  (p.source.bind fun s => s.left.head?).map Replay.Entry.item

/-- What passes the borders of the pipeline in an action, while the sink
takes all lines. -/
def traffic (p : Parts) : Action → Traffic
  | .deliver now processor =>
    match p.next? with
    | some (.event e) => p.pipeline.traffic (.trace (p.coreOf e processor) e.notification now)
    | _ => .empty
  | .flushCore core => p.pipeline.traffic (.flushCore core)
  | .offer core => p.pipeline.offerTraffic core
  | .print => if p.printing then p.pipeline.traffic .tryReceive else .empty
  | .flushOutput | .report | .reload _ => .empty

/-- What passes them in a turn. -/
def trafficIn (p : Parts) (t : Agent.Turn) : Traffic := (p.withCoreLocks t.held).traffic t.action

/-- Parts whose pipeline and printer account for traffic. -/
structure Accounted (format : OutputFormat) (limits : Nat × Option Nat) (t : Traffic)
    (p : Parts) : Prop where
  sound : p.pipeline.Sound
  limits_eq : p.pipeline.limits = limits
  shows : p.printer.Shows format (counted t.delivered)
  law : t.admitted.length
    = p.pipeline.heldInAll + counted t.delivered + counted t.refused

variable {format : OutputFormat} {limits : Nat × Option Nat} {t : Traffic} {p : Parts}
  (stamp : UInt64 → String)

namespace Accounted

/-- The account goes on with what is accounted for and shown. -/
theorem next (h : p.Accounted format limits t) {u : Traffic} {q : Parts}
    (haccounts : p.pipeline.Accounts u q.pipeline)
    (hshows : q.printer.Shows format (counted t.delivered + counted u.delivered)) :
    q.Accounted format limits (t.append u) where
  sound := haccounts.sound
  limits_eq := haccounts.limits_eq.trans h.limits_eq
  shows := by
    rw [Traffic.append, counted_append]
    exact hshows
  law := by
    have hbefore := h.law
    have hstep := haccounts.law
    rw [Traffic.append]
    dsimp only
    rw [List.length_append, counted_append, counted_append]
    omega

/-- Where nothing is delivered the printer has nothing to show. -/
theorem next_of_shows (h : p.Accounted format limits t) {u : Traffic} {q : Parts}
    (haccounts : p.pipeline.Accounts u q.pipeline) (hnone : u.delivered = [])
    (hprinter : q.printer.Shows format (counted t.delivered)) :
    q.Accounted format limits (t.append u) := by
  refine h.next haccounts ?_
  rw [hnone]
  exact hprinter

/-- The record that is received, if there is one, is printed. -/
theorem print (h : p.Accounted format limits t) (hprinting : p.printing = true)
    (hfits : t.admitted.length < UInt64.size) :
    (p.print stamp).2.printing = true ∧
      (p.print stamp).2.Accounted format limits (t.append (p.traffic .print)) := by
  have hlaw := h.law
  have haccounts := Pipeline.accounts_after h.sound .tryReceive (by
    show p.pipeline.heldInAll + 0 < _
    omega)
  rw [traffic, if_pos hprinting]
  rw [Pipeline.after, Pipeline.traffic] at haccounts
  rw [Pipeline.traffic, Parts.print, if_pos hprinting]
  cases hreceive : p.pipeline.tryReceive? with
  | none =>
    rw [hreceive] at haccounts
    exact ⟨hprinting, h.next_of_shows haccounts rfl h.shows⟩
  | some found =>
    obtain ⟨r, pipeline⟩ := found
    rw [hreceive] at haccounts
    -- The record was held, so its count is part of what was admitted.
    have hstep : p.pipeline.heldInAll + 0 = pipeline.heldInAll + (r.count.toNat + 0) + 0 :=
      haccounts.law
    obtain ⟨printer, hwrite, hshown⟩ := h.shows.write stamp (r := r) (by omega)
    dsimp only
    rw [hwrite]
    refine ⟨hprinting, h.next haccounts ?_⟩
    exact hshown

end Accounted

/-- Whoever gives back all locks leaves the parts as they were. -/
theorem withCoreLocks_back (h : p.pipeline.Sound) (held : Nat → Bool) :
    (p.withCoreLocks held).withCoreLocks (fun _ => false) = p := by
  have hpipeline := h.withCoreLocks_back held
  rw [withCoreLocks, withCoreLocks, hpipeline]

/-- What is delivered to the printer does not depend on locks. -/
theorem traffic_print (p : Parts) (held : Nat → Bool) :
    (p.withCoreLocks held).traffic .print = p.traffic .print := by
  have hreceive := p.pipeline.tryReceive?_withCoreLocks held
  rw [traffic, traffic, Pipeline.traffic, Pipeline.traffic,
    show (p.withCoreLocks held).pipeline = p.pipeline.withCoreLocks held from rfl, hreceive,
    Option.map_map]
  rfl

/-- Printing passes no lock. -/
theorem print_withCoreLocks (p : Parts) (held : Nat → Bool) :
    ((p.withCoreLocks held).print stamp).2 = (p.print stamp).2.withCoreLocks held := by
  rw [Parts.print, Parts.print, show (p.withCoreLocks held).printing = p.printing from rfl]
  split
  · rw [show (p.withCoreLocks held).pipeline = p.pipeline.withCoreLocks held from rfl,
      Pipeline.tryReceive?_withCoreLocks]
    cases p.pipeline.tryReceive? with
    | none => rfl
    | some found =>
      dsimp only [Option.map_some]
      rw [show (p.withCoreLocks held).printer = p.printer from rfl]
      rcases p.printer.write stamp found.1 with ⟨_ | _, printer⟩ <;> rfl
  · rfl

namespace Accounted

variable (h : p.Accounted format limits t)
include h

/-- Others that give back the locks leave a pipeline that accounts for
nothing more. -/
theorem accounts_back (held : Nat → Bool) :
    p.pipeline.Accounts .empty ((p.pipeline.withCoreLocks held).withCoreLocks fun _ => false) := by
  rw [h.sound.withCoreLocks_back]
  exact .refl h.sound

/-- A delivered item is traced, if it is an event. -/
theorem deliver (held : Nat → Bool) (now : UInt64) (processor : Nat)
    (hfits : t.admitted.length
      + ((p.withCoreLocks held).traffic (.deliver now processor)).admitted.length < UInt64.size) :
    (((p.withCoreLocks held).deliver now processor).withCoreLocks fun _ => false).Accounted
      format limits (t.append ((p.withCoreLocks held).traffic (.deliver now processor))) := by
  have hlaw := h.law
  have hback := h.accounts_back held
  rw [Parts.deliver]
  rw [traffic, next?, show (p.withCoreLocks held).source = p.source from rfl] at hfits ⊢
  cases hsource : p.source with
  -- Nothing is read any more, so only the locks have come and gone.
  | none => exact h.next_of_shows hback rfl h.shows
  | some s =>
    rw [hsource] at hfits
    cases hleft : s.left with
    | nil =>
      simp only [Option.bind_some, hleft]
      exact h.next_of_shows hback rfl h.shows
    | cons entry rest =>
      simp only [Option.bind_some, hleft, List.head?_cons, Option.map_some] at hfits ⊢
      cases hitem : entry.item with
      | event e =>
        rw [hitem] at hfits
        -- Only an event gives the pipeline something to account for.
        have htrace := Pipeline.accounts_trace h.sound held
          ((p.withCoreLocks held).coreOf e processor) e.notification now (by
            have hfits : t.admitted.length
              + ((p.pipeline.withCoreLocks held).traffic _).admitted.length < _ := hfits
            omega)
        exact h.next_of_shows htrace rfl h.shows
      | malformed line cause => exact h.next_of_shows hback rfl h.shows
      | unreadable => exact h.next_of_shows hback rfl h.shows

/-- Whatever a part does, in whatever state the locks are. -/
theorem after (hprinting : p.printing = true) (turn : Agent.Turn)
    (hfits : t.admitted.length + (p.trafficIn turn).admitted.length < UInt64.size) :
    let q := ((p.withCoreLocks turn.held).after stamp turn.action).withCoreLocks fun _ => false
    q.printing = true ∧ q.Accounted format limits (t.append (p.trafficIn turn)) := by
  obtain ⟨held, x⟩ := turn
  have hback := h.accounts_back held
  rw [trafficIn] at hfits ⊢
  dsimp only at hfits ⊢
  cases x with
  | deliver now processor =>
    refine ⟨?_, h.deliver held now processor hfits⟩
    rw [Parts.after, deliver_eq]
    exact hprinting
  | flushCore core =>
    have hpass := Pipeline.accounts_flushCore h.sound held core
    exact ⟨hprinting, h.next_of_shows hpass rfl h.shows⟩
  | offer core =>
    have hoffer := Pipeline.accounts_offer h.sound held core
    exact ⟨hprinting, h.next_of_shows hoffer rfl h.shows⟩
  | print =>
    -- Printing needs no lock of a core, so it is what it would be with all of them free.
    obtain ⟨hgoes, hnext⟩ := h.print stamp hprinting (by omega)
    rw [Parts.after, print_withCoreLocks, withCoreLocks_back hnext.sound, traffic_print]
    exact ⟨hgoes, hnext⟩
  | flushOutput =>
    obtain ⟨printer, hflush, -, hshown⟩ := h.shows.flush stamp
    -- A flush moves what is held to the lines, and both are shown.
    have hflushed : (p.withCoreLocks held).flushOutput stamp
        = { p.withCoreLocks held with printer := printer } := by
      rw [Parts.flushOutput, if_pos (show (p.withCoreLocks held).printing = true from hprinting),
        show (p.withCoreLocks held).printer = p.printer from rfl, hflush]
    rw [Parts.after, hflushed]
    exact ⟨hprinting, h.next_of_shows hback rfl hshown⟩
  | report =>
    -- An export only remembers the counters.
    have hreport : ∃ exported, (p.withCoreLocks held).after stamp .report
        = { p.withCoreLocks held with exported := exported } := by
      rw [Parts.after]
      split
      · exact ⟨_, rfl⟩
      · exact ⟨p.exported, rfl⟩
    obtain ⟨exported, hreport⟩ := hreport
    rw [hreport]
    exact ⟨hprinting, h.next_of_shows hback rfl h.shows⟩
  | reload c =>
    have hupdate : p.pipeline.Accounts .empty
        (((p.pipeline.withCoreLocks held).update c.rate c.interval).2.withCoreLocks
          fun _ => false) :=
      ⟨hback.sound, hback.limits_eq, hback.law⟩
    exact ⟨hprinting, h.next_of_shows hupdate rfl h.shows⟩

end Accounted

end Parts

namespace Agent

variable {ν : Type} (a : Arithmetic ν) (stamp : UInt64 → String)

/-- What passes the borders of the pipeline in a turn; nothing without a
pipeline. -/
def trafficIn (g : Agent ν) (t : Turn) : Traffic :=
  (g.parts.map fun p => p.trafficIn t).getD .empty

/-- What passes them in turns, one after another. -/
def trafficOf : List Turn → Agent ν → Traffic
  | [], _ => .empty
  | t :: ts, g => (g.trafficIn t).append (trafficOf ts (g.take a stamp t))

variable {format : OutputFormat} {limits : Nat × Option Nat} {t : Traffic} {g : Agent ν}
  {p : Parts}

/-- What is accounted for in the beginning and what passes in a run are
accounted for in the end. -/
theorem takeAll_accounted (hparts : g.parts = some p) (hprinting : p.printing = true)
    (h : p.Accounted format limits t) (turns : List Turn)
    (hfits : t.admitted.length + (g.trafficOf a stamp turns).admitted.length < UInt64.size) :
    ∃ q, (g.takeAll a stamp turns).parts = some q ∧ q.printing = true ∧
      q.Accounted format limits (t.append (g.trafficOf a stamp turns)) := by
  induction turns generalizing g p t with
  | nil =>
    refine ⟨p, hparts, hprinting, ?_⟩
    rw [trafficOf, Traffic.append_empty]
    exact h
  | cons turn turns ih =>
    have htraffic : g.trafficOf a stamp (turn :: turns)
        = (p.trafficIn turn).append ((g.take a stamp turn).trafficOf a stamp turns) := by
      rw [trafficOf, trafficIn, hparts]
      rfl
    rw [htraffic] at hfits ⊢
    rw [← Traffic.append_assoc]
    rw [Traffic.length_admitted_append] at hfits
    -- The turn leaves parts from which the others go on.
    obtain ⟨hgoes, hnext⟩ := h.after stamp hprinting turn (by omega)
    refine ih ?_ hgoes hnext ?_
    · rw [parts_take, hparts]
      rfl
    · rw [Traffic.length_admitted_append]
      omega

end Agent

end RuleTrace
