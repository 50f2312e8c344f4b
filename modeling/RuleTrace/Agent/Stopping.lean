import RuleTrace.Agent.Action
import RuleTrace.Pipeline.Draining

/-!
# `RuleTrace.Agent.Stopping`: an agent that comes to rest, step by step

An agent is brought to rest in stages: the slots are drained, then the
output is closed and what waits in it is printed, then the counters are
exported a last time. The recording and the tickers have ended before
that. The printer goes on taking records and flushing its output until
the output is closed, and the counters go on being exported until the
end, so any of this may come between two steps. `Stopping.move` makes
one move, of the stages or of somebody else, and `Stopping.run` a list
of them.
-/

set_option autoImplicit false

namespace RuleTrace.Agent

/-- What is still to be done until an agent is at rest. -/
inductive Stage where
  | draining
  | closing
  | reporting
  | done
  deriving DecidableEq, Repr

/-- A move of an agent that comes to rest. -/
inductive Move where
  /-- the next step, while somebody else holds the lock of the core that
  is drained, or not; that can be an export of the counters only, which
  counts what is stored -/
  | goOn (contended : Bool)
  /-- the printer takes a record -/
  | print
  /-- the printer flushes its output -/
  | flushOutput
  /-- the growth of the counters is exported, while others hold the locks
  of some cores -/
  | report (held : Nat → Bool)

/-- Whether a move is a step towards rest. -/
def Move.isStep : Move → Bool
  | .goOn _ => true
  | _ => false

/-- An agent that comes to rest. -/
structure Stopping (ν : Type) where
  agent : Agent ν
  stage : Stage
  draining : Draining

namespace Stopping

variable {ν : Type}

/-- An agent whose recording and tickers have ended. -/
def start (g : Agent ν) : Stopping ν where
  agent := { g.withParts fun p => { p with source := none, timetable := .empty p.timetable.now }
    with stopped := true }
  stage := if g.parts.isSome then .draining else .done
  draining := (g.pipeline?.map Draining.start).getD ⟨[], none, []⟩

/-- Takes a step in emptying the slots. -/
def drain (contended : Bool) (s : Stopping ν) : Stopping ν :=
  match s.agent.parts with
  | none => s
  | some p =>
    let (draining, pipeline) := s.draining.step contended p.pipeline
    { s with
      agent := { s.agent with parts := some { p with pipeline := pipeline } }
      draining := draining }

/-- Closes the output and prints what waits in it. -/
def close (a : Arithmetic ν) (stamp : UInt64 → String) (g : Agent ν) : Agent ν :=
  match g.parts with
  | none => g
  | some p =>
    let (n, p) := p.finishPrinting stamp
    { g with parts := some p, metrics := g.metrics.addConsumed a n }

/-- Exports the counters a last time. -/
def finish (a : Arithmetic ν) (g : Agent ν) : Agent ν :=
  (g.report a).withParts fun p => { p with reporting := false }

/-- Takes the next step. -/
def goOn (a : Arithmetic ν) (stamp : UInt64 → String) (contended : Bool) (s : Stopping ν) :
    Stopping ν :=
  match s.stage with
  | .draining => if s.draining.cores = [] then { s with stage := .closing } else s.drain contended
  | .closing => { s with agent := close a stamp s.agent, stage := .reporting }
  | .reporting => { s with agent := finish a s.agent, stage := .done }
  | .done => s

/-- Somebody else does something. -/
def meanwhile (a : Arithmetic ν) (stamp : UInt64 → String) (s : Stopping ν) (t : Turn) :
    Stopping ν :=
  { s with agent := s.agent.take a stamp t }

/-- Makes a move. -/
def move (a : Arithmetic ν) (stamp : UInt64 → String) (s : Stopping ν) : Move → Stopping ν
  | .goOn contended => s.goOn a stamp contended
  | .print => s.meanwhile a stamp ⟨fun _ => false, .print⟩
  | .flushOutput => s.meanwhile a stamp ⟨fun _ => false, .flushOutput⟩
  | .report held => s.meanwhile a stamp ⟨held, .report⟩

/-- Makes one move after another. -/
def run (a : Arithmetic ν) (stamp : UInt64 → String) (moves : List Move) (s : Stopping ν) :
    Stopping ν :=
  moves.foldl (move a stamp) s

end Stopping

end RuleTrace.Agent
