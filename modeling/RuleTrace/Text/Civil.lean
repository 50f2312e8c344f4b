import RuleTrace.Text.Numeral

/-!
# `RuleTrace.Text.Civil`: moments as dates and times of day

A moment is a number of nanoseconds since the start of 1970 in
Coordinated Universal Time, without leap seconds. It is written with
six places after the second.

Days are counted in the Gregorian calendar from the first of March of
the year zero, so that a leap day is the last of its year. A cycle of
400 years has 146097 days.
-/

set_option autoImplicit false

namespace RuleTrace.Text.Civil

/-- A day of the calendar. -/
structure Date where
  year : Nat
  month : Nat
  day : Nat
  deriving DecidableEq, Repr

/-- The days from the first of March of the year zero to the start of
1970. -/
def daysToEpoch : Nat := 719468

/-- The years that are over by a day of a cycle. -/
def yearOfCycle (day : Nat) : Nat := (day - day / 1460 + day / 36524 - day / 146096) / 365

/-- The day with a number, counted from the start of 1970. -/
def dateOfDay (n : Nat) : Date :=
  let day := (n + daysToEpoch) % 146097
  let year := yearOfCycle day
  let dayOfYear := day - (365 * year + year / 4 - year / 100)
  let month := (5 * dayOfYear + 2) / 153
  { year := (n + daysToEpoch) / 146097 * 400 + year + if month < 10 then 0 else 1
    month := if month < 10 then month + 3 else month - 9
    day := dayOfYear - (153 * month + 2) / 5 + 1 }

/-- A number in at least two digits. -/
def two (n : Nat) : List Char := padLeft '0' 2 (decimal n)

/-- The text of a day. -/
def Date.text (d : Date) : List Char :=
  padLeft '0' 4 (decimal d.year) ++ '-' :: two d.month ++ '-' :: two d.day

/-- The text of a moment. -/
def stamp (nanos : Nat) : List Char :=
  let seconds := nanos / 1000000000
  let micros := nanos % 1000000000 / 1000
  (dateOfDay (seconds / 86400)).text ++ 'T' :: two (seconds / 3600 % 24)
    ++ ':' :: two (seconds / 60 % 60) ++ ':' :: two (seconds % 60)
    ++ '.' :: padLeft '0' 6 (decimal micros) ++ ['Z']

end RuleTrace.Text.Civil
