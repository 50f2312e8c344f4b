import RuleTrace.Json.Value

/-!
# `RuleTrace.Json.Scan`: words of JSON text

Reading goes from left to right over a list of characters and stops at
the first fault. A reader takes what it reads off the front and hands
back the rest. This module holds the readers for what has no parts of
its own: blanks, literals, strings and numbers.

* A string is read by a machine with one state per place inside an
  escape (`Place`). A careful reader (`strict`) wants surrogates in
  pairs; one that only looks for the end of the string does not care.
* A number is cut by its grammar first (`Numeral`) and then judged:
  digits that fit 64 bits make an exact number, all others an inexact
  one, unless the magnitude is beyond what a binary64 number can hold,
  which is a fault.
-/

set_option autoImplicit false

namespace RuleTrace.Json

/-- Why a text could not be read. -/
inductive Fault where
  /-- the text ends too early -/
  | unfinished
  /-- the text is no JSON -/
  | malformed
  /-- the JSON does not fit what is to be read -/
  | mismatch
  deriving DecidableEq, Repr

/-- The wording of the fault. -/
def Fault.message : Fault → String
  | unfinished => "unexpected end of text"
  | malformed => "malformed JSON"
  | mismatch => "unexpected kind of value"

/-- What was read and the rest of the text, or the fault met. -/
abbrev Parsed (α : Type) := Except Fault (α × List Char)

/-- Blanks between words. -/
def isSpace (c : Char) : Bool := c = ' ' || c = '\n' || c = '\t' || c = '\r'

/-- The text from the next word on. -/
def skipSpace (s : List Char) : List Char := s.dropWhile isSpace

/-- Takes the given characters off the front. -/
def literal : List Char → List Char → Except Fault (List Char)
  | [], s => .ok s
  | _ :: _, [] => .error .unfinished
  | e :: es, c :: s => if e = c then literal es s else .error .malformed

/-- Takes one character off the front, after blanks. -/
def punctuation (c : Char) (s : List Char) : Except Fault (List Char) := literal [c] (skipSpace s)

/-! ### Strings -/

/-- A place inside a string. -/
inductive Place where
  | plain
  /-- after a backslash -/
  | escape
  /-- inside `\u`: how many digits are missing, the value so far, and
  the high surrogate before it -/
  | digits (missing value : Nat) (high : Option Nat)
  /-- after a high surrogate -/
  | backslash (high : Nat)
  /-- after a high surrogate and a backslash -/
  | letter (high : Nat)

/-- The character for a letter after a backslash. -/
def unescape? (c : Char) : Option Char :=
  match c with
  | '"' => some '"'
  | '\\' => some '\\'
  | '/' => some '/'
  | 'b' => some '\x08'
  | 'f' => some '\x0c'
  | 'n' => some '\n'
  | 'r' => some '\r'
  | 't' => some '\t'
  | _ => none

def isHighSurrogate (n : Nat) : Bool := 0xD800 ≤ n && n ≤ 0xDBFF
def isLowSurrogate (n : Nat) : Bool := 0xDC00 ≤ n && n ≤ 0xDFFF

/-- The character of a pair of surrogates. -/
def pairChar (high low : Nat) : Char := .ofNat (0x10000 + (high - 0xD800) * 0x400 + (low - 0xDC00))

/-- Where to go on after the four digits of an escape, and the
character they complete, if they do. -/
def afterDigits (strict : Bool) (n : Nat) (high : Option Nat) :
    Except Fault (Option Char × Place) :=
  if !strict then .ok (none, .plain)
  else
    match high with
    | some h =>
      if isLowSurrogate n then .ok (some (pairChar h n), .plain) else .error .malformed
    | none =>
      if isLowSurrogate n then .error .malformed
      else if isHighSurrogate n then .ok (none, .backslash n)
      else .ok (some (.ofNat n), .plain)

/-- Whether fewer than four octets of text are left. -/
def endsWithinDigits (s : List Char) : Bool := (s.take 4).foldr (fun c n => c.utf8Size + n) 0 < 4

/-- Puts a character, if there is one, in front of what is read. -/
def prepend (c : Option Char) (p : Parsed (List Char)) : Parsed (List Char) :=
  p.map fun (cs, rest) => (c.toList ++ cs, rest)

/-- Reads a string to its closing quote, from a place inside it. -/
def stringFrom (strict : Bool) : Place → List Char → Parsed (List Char)
  | _, [] => .error .unfinished
  | .plain, c :: s =>
    if c = '"' then .ok ([], s)
    else if c = '\\' then stringFrom strict .escape s
    else if c.toNat < 0x20 then .error .malformed
    else prepend (some c) (stringFrom strict .plain s)
  | .escape, c :: s =>
    if c = 'u' then
      -- Four octets are looked for at once, so a text that ends here is cut off, not wrong.
      if endsWithinDigits s then .error .unfinished else stringFrom strict (.digits 4 0 none) s
    else
      match unescape? c with
      | some u => prepend (some u) (stringFrom strict .plain s)
      | none => .error .malformed
  | .digits missing value high, c :: s =>
    match Text.hexDigit? c with
    | none => .error .malformed
    | some d =>
      let value := 16 * value + d
      if missing ≤ 1 then
        match afterDigits strict value high with
        | .error e => .error e
        | .ok (u, place) => prepend u (stringFrom strict place s)
      else stringFrom strict (.digits (missing - 1) value high) s
  -- The first half of a pair was read, so only another escape may follow.
  | .backslash high, c :: s =>
    if c = '\\' then stringFrom strict (.letter high) s else .error .malformed
  | .letter high, c :: s =>
    if c = 'u' then
      if endsWithinDigits s then .error .unfinished
      else stringFrom strict (.digits 4 0 (some high)) s
    else .error .malformed

/-- Reads a string after its opening quote. -/
def readString (s : List Char) : Parsed String :=
  (stringFrom true .plain s).map fun (cs, rest) => (String.ofList cs, rest)

/-- Finds the end of a string after its opening quote. -/
def skipString (s : List Char) : Except Fault (List Char) := (stringFrom false .plain s).map (·.2)

/-! ### Numbers -/

/-- The digits of a number, as far as it has them. -/
structure Numeral where
  negative : Bool
  whole : List Char
  /-- the digits after the point -/
  fraction : Option (List Char)
  /-- whether the exponent is negative, and its digits -/
  exponent : Option (Bool × List Char)
  deriving DecidableEq, Repr

/-- At least one digit. -/
def digits1 (s : List Char) : Parsed (List Char) :=
  let ds := s.takeWhile Char.isDigit
  let rest := s.dropWhile Char.isDigit
  if ds.isEmpty then (if s.isEmpty then .error .unfinished else .error .malformed)
  else .ok (ds, rest)

/-- The digits before the point: no zero leads them. -/
def wholePart (s : List Char) : Parsed (List Char) :=
  match digits1 s with
  | .error e => .error e
  | .ok (ds, rest) =>
    if ds.head? = some '0' ∧ ds.length ≠ 1 then .error .malformed else .ok (ds, rest)

/-- The point and the digits after it, if there is a point. -/
def fractionPart (s : List Char) : Parsed (Option (List Char)) :=
  match s with
  | '.' :: s => (digits1 s).map fun (ds, rest) => (some ds, rest)
  | s => .ok (none, s)

/-- The sign of an exponent, and the text after it. -/
def exponentSign (s : List Char) : Bool × List Char :=
  match s with
  | '-' :: s => (true, s)
  | '+' :: s => (false, s)
  | s => (false, s)

/-- The exponent, if there is one. -/
def exponentPart (s : List Char) : Parsed (Option (Bool × List Char)) :=
  match s with
  | [] => .ok (none, [])
  | c :: rest =>
    if c = 'e' ∨ c = 'E' then
      let (negative, rest) := exponentSign rest
      (digits1 rest).map fun (ds, rest) => (some (negative, ds), rest)
    else .ok (none, s)

/-- Cuts a number off the front of a text. -/
def numeral (s : List Char) : Parsed Numeral :=
  let (negative, s) : Bool × List Char :=
    match s with
    | '-' :: s => (true, s)
    | s => (false, s)
  match wholePart s with
  | .error e => .error e
  | .ok (whole, s) =>
    match fractionPart s with
    | .error e => .error e
    | .ok (fraction, s) =>
      match exponentPart s with
      | .error e => .error e
      | .ok (exponent, s) => .ok (⟨negative, whole, fraction, exponent⟩, s)

/-- The value of a digit. -/
def digitValue (c : Char) : Nat := c.toNat - '0'.toNat

/-- Appends digits to a number as long as it fits 64 bits; the number
and the digits left. -/
def accumulate (n : Nat) : List Char → Nat × List Char
  | [] => (n, [])
  | d :: ds =>
    let next := 10 * n + digitValue d
    if next < UInt64.size then accumulate next ds else (n, d :: ds)

/-- The nearest natural number of 53 significant bits, ties to the even
one. -/
def roundTo53 (n : Nat) : Nat :=
  let unit := Nat.pow 2 (n.log2 + 1 - 53)
  let low := n / unit
  let twice := 2 * (n % unit)
  let up := unit < twice ∨ (unit = twice ∧ low % 2 = 1)
  (if up then low + 1 else low) * unit

/-- Whether `significand * 10 ^ exponent` is beyond the binary64
numbers, when both factors are rounded before and the product after
multiplying. -/
def isOutOfRange (significand : Nat) (exponent : Int) : Bool :=
  significand ≠ 0 ∧ 0 ≤ exponent ∧
    (308 < exponent ∨
      Nat.pow 2 1024 - Nat.pow 2 970
        ≤ roundTo53 significand * roundTo53 (Nat.pow 10 exponent.toNat))

/-- The leading digits that are kept as a 64-bit number, and the power
of ten that belongs to it. -/
def Numeral.parts (n : Numeral) : Nat × Int :=
  let (significand, left) := accumulate 0 n.whole
  let fraction := n.fraction.getD []
  let (significand, ignored) := accumulate significand fraction
  let places : Int := left.length - (fraction.length - ignored.length : Nat)
  let exponent : Int :=
    match n.exponent with
    | none => 0
    | some (negative, ds) =>
      let e : Nat := ds.foldl (fun e d => 10 * e + digitValue d) 0
      if negative then -e else e
  (significand, places + exponent)

/-- Whether the number is written with digits before the point only,
and these fit 64 bits. -/
def Numeral.isWhole (n : Numeral) : Bool :=
  n.fraction.isNone && n.exponent.isNone && (accumulate 0 n.whole).2.isEmpty

/-- The use that the number can have. -/
def Numeral.judge (n : Numeral) : Except Fault Number :=
  let (significand, exponent) := n.parts
  if n.isWhole then
    if !n.negative then .ok (.natural significand)
    else if significand = 0 ∨ UInt64.size / 2 < significand then .ok .inexact
    else .ok (.negative significand)
  else if isOutOfRange significand exponent then .error .malformed
  else .ok .inexact

/-- Reads a number. -/
def readNumber (s : List Char) : Parsed Number :=
  match numeral s with
  | .error e => .error e
  | .ok (n, rest) => n.judge.map fun number => (number, rest)

/-- Finds the end of a number of any magnitude. A number that ends too
early is malformed here. -/
def skipNumber (s : List Char) : Except Fault (List Char) :=
  match numeral s with
  | .error _ => .error .malformed
  | .ok (_, rest) => .ok rest

/-! ### Scalars -/

/-- Reads a value without parts. -/
def readScalar (s : List Char) : Parsed Value :=
  match s with
  | [] => .error .unfinished
  | c :: rest =>
    if c = '"' then (readString rest).map fun (t, rest) => (.string t, rest)
    else if c = '-' ∨ c.isDigit then (readNumber s).map fun (n, rest) => (.number n, rest)
    else if c = 'n' then (literal "ull".toList rest).map fun rest => (.null, rest)
    else if c = 't' then (literal "rue".toList rest).map fun rest => (.bool true, rest)
    else if c = 'f' then (literal "alse".toList rest).map fun rest => (.bool false, rest)
    else .error .malformed

/-- Finds the end of a value without parts. -/
def skipScalar (s : List Char) : Except Fault (List Char) :=
  match s with
  | [] => .error .unfinished
  | c :: rest =>
    if c = '"' then skipString rest
    else if c = '-' ∨ c.isDigit then skipNumber s
    else (readScalar s).map (·.2)

end RuleTrace.Json
