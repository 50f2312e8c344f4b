import RuleTrace.Lock
import RuleTrace.Span

/-!
# `RuleTrace.Settings`: what can be changed while tracing

Two settings are read at every notification: the sample rate and the
interval of aggregation, where interval zero means that records go
straight to the output. They change together, under a lock. Whether
there are stores to aggregate in is decided at the start, by the first
interval; without them the interval stays zero.
-/

set_option autoImplicit false

namespace RuleTrace

/-- The settings in force. -/
structure Settings where
  rate : UInt64
  /-- nanoseconds between flushes, zero for none -/
  interval : UInt64
  /-- whether there are stores to aggregate in -/
  available : Bool
  lock : Lock
  /-- attempts allowed to get the lock -/
  attempts : Nat
  deriving DecidableEq, Repr

/-- Why the settings did not change. -/
inductive SettingsError where
  | contended (cause : Contended)
  | aggregationUnavailable
  deriving DecidableEq, Repr

namespace SettingsError

/-- The wording of the error. -/
def message : SettingsError → String
  | contended cause => "settings update skipped: " ++ cause.message
  | aggregationUnavailable =>
    "aggregation cannot be enabled at runtime when the pipeline started in direct mode"

/-- The wordings of the error and of what caused it, outermost
first. -/
def chain : SettingsError → List String
  | contended cause => [(contended cause).message, cause.message]
  | aggregationUnavailable => [aggregationUnavailable.message]

end SettingsError

namespace Settings

/-- The settings at the start. -/
def initial (rate : UInt64) (interval : Span) (attempts : Nat) : Settings where
  rate := rate
  interval := interval.saturated
  available := interval.saturated != 0
  lock := .free
  attempts := attempts

/-- Whether new records are aggregated. -/
def enabled (s : Settings) : Bool := s.interval != 0

/-- The interval as a span. -/
def span (s : Settings) : Span := .ofWord s.interval

/-- Takes over both settings, or changes nothing. -/
def update (s : Settings) (rate : UInt64) (interval : Span) :
    Except SettingsError Unit × Settings :=
  let word := interval.saturated
  if word ≠ 0 ∧ s.available = false then (.error .aggregationUnavailable, s)
  else
    match s.lock.acquire s.attempts with
    | .error e => (.error (.contended e), s)
    | .ok lock => (.ok (), { s with rate := rate, interval := word, lock := lock.release })

end Settings

end RuleTrace
