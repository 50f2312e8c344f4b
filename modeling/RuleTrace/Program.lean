import RuleTrace.Agent.Clock
import RuleTrace.CommandLine.Manual
import RuleTrace.Config.Load
import RuleTrace.LogFilter

/-!
# `RuleTrace.Program`: from a command line to its ending

The program reads its command line, then its configuration, and starts
an agent. A recording is delivered to its end and the agent is stopped;
without a recording there is nothing to deliver. `Program.run` tells
how it all ends: the exit status, the lines on standard output, and the
wording of what failed.
-/

set_option autoImplicit false

namespace RuleTrace.Program

/-- Why the program ends before its work is done. -/
inductive Failure where
  /-- the job needs a configuration file -/
  | noConfig
  | badConfig (path : String)
  | badLogFilter (filter : String)
  /-- the configuration or the filter for the log is broken, which is an
  accident and is not told -/
  | accident
  | start (cause : StartError)
  deriving DecidableEq, Repr

/-- The wording of the failure, if it is told. -/
def Failure.message? : Failure → Option String
  | noConfig => some "--config is required (use --help for usage)"
  | badConfig path => some ("loading config from " ++ path)
  | badLogFilter filter => some ("invalid log level: " ++ filter)
  | accident => none
  | start cause => cause.message?

/-- The exit status after the failure, which is another one for an
accident. -/
def Failure.status (f : Failure) : Nat := if f.message?.isSome then 1 else 101

/-- How the program ends. -/
structure Ending where
  status : Nat
  /-- the lines on standard output -/
  output : List (List Char)
  failure : Option String
  deriving DecidableEq, Repr

namespace Ending

/-- An ending after all went well. -/
def success (output : List (List Char)) : Ending := ⟨0, output, none⟩

/-- An ending after a wrong command line. -/
def misuse : Ending := ⟨2, [], none⟩

/-- An ending after a failure. -/
def failed (f : Failure) : Ending := ⟨f.status, [], f.message?⟩

end Ending

/-- The configuration before the job has its say. -/
def baseConfig (o : Options) (job : Job) (file? : String → Option (List UInt8)) :
    Except Failure Config :=
  match o.config, job with
  | some path, _ =>
    (Config.load (file? path)).mapError fun e =>
      if e = .broken then .accident else .badConfig path
  | none, .replay _ => .ok .standard
  | none, _ => .error .noConfig

/-- Accepts the filter for the log, of which the option has precedence
over the configuration. -/
def checkLogFilter (o : Options) (c : Config) : Except Failure Unit :=
  let filter := o.logLevel.getD c.logLevel
  match LogFilter.check filter.toList with
  | .ok () => .ok ()
  | .error .malformed => .error (.badLogFilter filter)
  | .error .broken => .error .accident

/-- The configuration for a job. -/
def configure (o : Options) (job : Job) (file? : String → Option (List UInt8)) :
    Except Failure Config := do
  let c ← baseConfig o job file?
  checkLogFilter o c
  match job with
  | .replay file => return { c with replayPath := some file }
  | _ => return c

/-- Starts an agent, waits for the end of its recording and stops it;
its output. -/
def session (w : Surroundings) (stamp : UInt64 → String) (current : Nat → Nat) (c : Config) :
    Except Failure (List (List Char)) :=
  let a := Arithmetic.binary64
  match (Agent.new a c).start a w with
  | (.error e, _) => .error (.start e)
  | (.ok (), g) => .ok (((g.wait a stamp current).2.stop a stamp).output stamp)

/-- The ending of a job that starts an agent. Lines that go to a file
are not on standard output. -/
def runAgent (w : Surroundings) (stamp : UInt64 → String) (current : Nat → Nat) (o : Options)
    (job : Job) : Ending :=
  match configure o job w.file? with
  | .error f => .failed f
  | .ok c =>
    match session w stamp current c with
    | .error f => .failed f
    | .ok lines => .success (if c.outputPath.isSome then [] else lines)

/-- How the program ends for a command line. On which processor an item
of a recording is read, `current` tells. -/
def run (w : Surroundings) (stamp : UInt64 → String) (current : Nat → Nat) (words : List String) :
    Ending :=
  match CommandLine.parse? words with
  | none => .misuse
  | some (.help topic) => .success (topic.lines.map String.toList)
  | some (.job _ .version) => .success [versionLine.toList]
  | some (.job o job) => runAgent w stamp current o job

end RuleTrace.Program
