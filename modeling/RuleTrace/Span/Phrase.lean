import RuleTrace.Span
import RuleTrace.Text.Blank
import RuleTrace.Text.Flaw
import RuleTrace.Text.Numeral

/-!
# `RuleTrace.Span.Phrase`: spans in words

A span is written as numbers with units, such as `1h 30m` or `1.5s`.
White space may stand anywhere except inside a unit; a unit may be
followed by the next number at once. A fraction has to come out even
in nanoseconds below the hour and in seconds from the hour on. The
text `0` alone needs no unit.

The reader is a fold of `Reading.step` over the characters: every
state says what may follow, so the grammar can be read off it. All
quantities are bounded by 64-bit words, as the format prescribes. What
goes beyond is malformed, with one exception: if just one second of
nanoseconds does not fit any more, the phrase is broken.
-/

set_option autoImplicit false

namespace RuleTrace.Span

open Text (Flaw)

/-- The units of the format. -/
inductive Scale where
  | nanosecond | microsecond | millisecond | second | minute | hour | day | week | month | year
  deriving DecidableEq, Repr

namespace Scale

/-- The unit of a name. -/
def ofName? (name : String) : Option Scale :=
  match name with
  | "nanos" | "nsec" | "ns" => some .nanosecond
  | "usec" | "us" | "µs" => some .microsecond
  | "millis" | "msec" | "ms" => some .millisecond
  | "seconds" | "second" | "secs" | "sec" | "s" => some .second
  | "minutes" | "minute" | "min" | "mins" | "m" => some .minute
  | "hours" | "hour" | "hrs" | "hr" | "h" => some .hour
  | "days" | "day" | "d" => some .day
  | "weeks" | "week" | "wk" | "wks" | "w" => some .week
  | "months" | "month" | "M" => some .month
  | "years" | "year" | "yr" | "yrs" | "y" => some .year
  | _ => none

/-- The seconds in units from the second on; a month is 30.44 days and
a year 365.25. -/
def inSeconds : Scale → Nat
  | .nanosecond | .microsecond | .millisecond => 0
  | .second => 1
  | .minute => 60
  | .hour => 3600
  | .day => 86400
  | .week => 604800
  | .month => 2630016
  | .year => 31557600

/-- The nanoseconds in units below the second. -/
def inNanos : Scale → Nat
  | .nanosecond => 1
  | .microsecond => 1000
  | .millisecond => 1000000
  | _ => 0

/-- A whole number of units, as seconds and nanoseconds that each fit
a word. -/
def whole? (u : Scale) (n : Nat) : Option (Nat × Nat) :=
  let parts := (n * u.inSeconds, n * u.inNanos)
  if parts.1 < UInt64.size ∧ parts.2 < UInt64.size then some parts else none

/-- The factor by which a fraction of a unit is multiplied, and
whether the product counts seconds. A fraction of a nanosecond has no
meaning. -/
def fine? : Scale → Option (Nat × Bool)
  | .nanosecond => none
  | .microsecond => some (1000, false)
  | .millisecond => some (1000000, false)
  | .second => some (1000000000, false)
  | .minute => some (60000000000, false)
  | u => some (u.inSeconds, true)

/-- A fraction of a unit, as seconds and nanoseconds, if it comes out
even. -/
def fraction? (u : Scale) (num den : Nat) : Option (Nat × Nat) :=
  u.fine?.bind fun (factor, isSeconds) =>
    let product := num * factor
    if product < UInt64.size ∧ product % den = 0 then
      some (if isSeconds then (product / den, 0) else (0, product / den))
    else none

end Scale

/-- Adds seconds and nanoseconds to a span, as long as the nanoseconds
below a second and the seconds each fit a word. -/
def plus (d : Span) (seconds nanos : Nat) : Except Flaw Span :=
  let seconds := d.seconds + seconds
  let nanos := d.subsecond + nanos
  let sum := ofParts seconds nanos
  if nanos < UInt64.size ∧ sum.seconds < UInt64.size then .ok sum
  else if nanos = second ∧ seconds < UInt64.size then .error .broken
  else .error .malformed

/-- A number read so far: its whole part and, after a point, the
fraction as numerator and denominator. -/
structure Quantity where
  whole : Nat
  fraction : Option (Nat × Nat)
  deriving DecidableEq, Repr

/-- What has been read of a phrase. -/
inductive Reading where
  /-- nothing but white space -/
  | start
  /-- whole units, with the span they add up to -/
  | between (sum : Span)
  /-- a number, before its unit -/
  | number (sum : Span) (q : Quantity)
  /-- a number and the first letters of its unit, last letter first -/
  | unit (sum : Span) (q : Quantity) (letters : List Char)
  deriving DecidableEq, Repr

/-- Whether a character can be part of a unit's name. -/
def isUnitLetter (c : Char) : Bool := c.isAlpha || c = 'µ'

/-- The span with one more quantity. -/
def plusQuantity (sum : Span) (q : Quantity) (letters : List Char) : Except Flaw Span := do
  let u ← Text.orMalformed (Scale.ofName? (String.ofList letters.reverse))
  let (s, ns) ← Text.orMalformed (u.whole? q.whole)
  let sum ← sum.plus s ns
  match q.fraction with
  | none => return sum
  | some (num, den) =>
    let (s, ns) ← Text.orMalformed (u.fraction? num den)
    sum.plus s ns

/-- One more digit of a number. -/
def Quantity.push? (q : Quantity) (d : Nat) : Option Quantity :=
  match q.fraction with
  | none => if 10 * q.whole + d < UInt64.size then some ⟨10 * q.whole + d, none⟩ else none
  | some (num, den) =>
    if 10 * num + d < UInt64.size ∧ 10 * den < UInt64.size then
      some ⟨q.whole, some (10 * num + d, 10 * den)⟩
    else none

/-- One more character. -/
def Reading.step (r : Reading) (c : Char) : Except Flaw Reading :=
  match r with
  | .start =>
    match Text.digit? c with
    | some d => .ok (.number .zero ⟨d, none⟩)
    | none => if Text.isBlank c then .ok .start else .error .malformed
  | .between sum =>
    match Text.digit? c with
    | some d => .ok (.number sum ⟨d, none⟩)
    | none => if Text.isBlank c then .ok (.between sum) else .error .malformed
  | .number sum q =>
    match Text.digit? c with
    | some d => (Text.orMalformed (q.push? d)).map (.number sum)
    | none =>
      if Text.isBlank c then .ok (.number sum q)
      else if isUnitLetter c then
        -- a point needs at least one digit after it
        if q.fraction.any (·.2 = 1) then .error .malformed else .ok (.unit sum q [c])
      else if c = '.' ∧ q.fraction.isNone then .ok (.number sum { q with fraction := some (0, 1) })
      else .error .malformed
  | .unit sum q letters =>
    match Text.digit? c with
    | some d => (plusQuantity sum q letters).map fun sum => .number sum ⟨d, none⟩
    | none =>
      if Text.isBlank c then (plusQuantity sum q letters).map .between
      else if isUnitLetter c then .ok (.unit sum q (c :: letters))
      else .error .malformed

/-- The span of a phrase that ends here. -/
def Reading.finish : Reading → Except Flaw Span
  | .start => .error .malformed
  | .between sum => .ok sum
  | .number _ _ => .error .malformed
  | .unit sum q letters => plusQuantity sum q letters

/-- The span that a phrase names. -/
def ofPhrase (s : List Char) : Except Flaw Span :=
  if s = ['0'] then .ok .zero else (s.foldlM Reading.step .start).bind Reading.finish

end RuleTrace.Span
