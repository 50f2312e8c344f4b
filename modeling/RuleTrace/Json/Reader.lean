import RuleTrace.Json.Scan

/-!
# `RuleTrace.Json.Reader`: values with parts

Arrays and objects are read by one loop each, which is told what to do
with an element or a member. Three readers are built on these loops:
one that keeps the value (`readValue`), one that only finds its end
(`skipValue`), and those of `RuleTrace.Json.Codec` for known types.

A loop is given the length of its text as the number of rounds, since
each round takes at least one character. `readValue` is given the
number of brackets that may be open inside one another; what is
skipped may be nested as deeply as its text allows.
-/

set_option autoImplicit false

namespace RuleTrace.Json

variable {σ κ : Type}

/-- Reads elements to the closing bracket. `more` says whether another
element is welcome, `step` reads one. -/
def elementsFrom (more : σ → Bool) (step : σ → List Char → Parsed σ) :
    Nat → Bool → σ → List Char → Parsed σ
  | 0, _, _, _ => .error .unfinished
  | rounds + 1, first, acc, s =>
    let next (s : List Char) : Parsed σ :=
      match step acc s with
      | .error e => .error e
      | .ok (acc, rest) => elementsFrom more step rounds false acc rest
    match skipSpace s with
    | [] => .error .unfinished
    | c :: rest =>
      if c = ']' then .ok (acc, rest)
      else if !more acc then .error .malformed
      else if first then next (c :: rest)
      else if c = ',' then
        match skipSpace rest with
        | [] => .error .unfinished
        -- After a comma there must be one more element.
        | c :: rest => if c = ']' then .error .malformed else next (c :: rest)
      else .error .malformed

/-- Reads the elements of an array after its opening bracket. -/
def elements (more : σ → Bool) (step : σ → List Char → Parsed σ) (acc : σ) (s : List Char) :
    Parsed σ :=
  elementsFrom more step (s.length + 1) true acc s

/-- Reads members to the closing brace. `key` reads a name after its
opening quote; `step` goes on after the name, at the colon. -/
def membersFrom (key : List Char → Parsed κ) (step : σ → κ → List Char → Parsed σ) :
    Nat → Bool → σ → List Char → Parsed σ
  | 0, _, _, _ => .error .unfinished
  | rounds + 1, first, acc, s =>
    -- A name must begin with its quote.
    let next (c : Char) (rest : List Char) : Parsed σ :=
      if c = '"' then
        match key rest with
        | .error e => .error e
        | .ok (k, rest) =>
          match step acc k rest with
          | .error e => .error e
          | .ok (acc, rest) => membersFrom key step rounds false acc rest
      else .error .malformed
    match skipSpace s with
    | [] => .error .unfinished
    | c :: rest =>
      if c = '\x7d' then .ok (acc, rest)
      else if first then next c rest
      else if c = ',' then
        match skipSpace rest with
        | [] => .error .unfinished
        | c :: rest => next c rest
      else .error .malformed

/-- Reads the members of an object after its opening brace. -/
def members (key : List Char → Parsed κ) (step : σ → κ → List Char → Parsed σ) (acc : σ)
    (s : List Char) : Parsed σ :=
  membersFrom key step (s.length + 1) true acc s

/-- Runs a reader after the colon. -/
def afterColon {α : Type} (read : List Char → Parsed α) (s : List Char) : Parsed α :=
  match punctuation ':' s with
  | .error e => .error e
  | .ok rest => read rest

/-- Reads any value. `inner` reads the values inside brackets; without
it no bracket may open. -/
def readValueWith (inner : Option (List Char → Parsed Value)) (s : List Char) : Parsed Value :=
  match skipSpace s with
  | [] => .error .unfinished
  | c :: rest =>
    if c = '[' ∨ c = '\x7b' then
      match inner with
      | none => .error .malformed
      | some inner =>
        if c = '[' then
          (elements (fun _ => true) (fun (vs : List Value) s =>
              (inner s).map fun (v, rest) => (vs ++ [v], rest)) [] rest).map
            fun (vs, rest) => (.array vs, rest)
        else
          (members readString (fun (ms : List (String × Value)) k s =>
              (afterColon inner s).map fun (v, rest) => (ms ++ [(k, v)], rest)) [] rest).map
            fun (ms, rest) => (.object ms, rest)
    else readScalar (c :: rest)

/-- Reads any value in which at most `depth` brackets are open inside
one another. -/
def readValue : Nat → List Char → Parsed Value
  | 0 => readValueWith none
  | depth + 1 => readValueWith (some (readValue depth))

/-- Finds the end of any value. -/
def skipValueWith (inner : Option (List Char → Parsed Unit)) (s : List Char) : Parsed Unit :=
  match skipSpace s with
  | [] => .error .unfinished
  | c :: rest =>
    if c = '[' ∨ c = '\x7b' then
      match inner with
      | none => .error .malformed
      | some inner =>
        if c = '[' then elements (fun _ => true) (fun _ => inner) () rest
        else members (fun s => (skipString s).map fun rest => ((), rest))
          (fun _ _ => afterColon inner) () rest
    else (skipScalar (c :: rest)).map fun rest => ((), rest)

/-- Finds the end of a value in which at most `depth` brackets are open
inside one another. -/
def skipValueWithin : Nat → List Char → Parsed Unit
  | 0 => skipValueWith none
  | depth + 1 => skipValueWith (some (skipValueWithin depth))

/-- Finds the end of a value. -/
def skipValue (s : List Char) : Parsed Unit := skipValueWithin s.length s

/-- Runs a reader on a whole text, of which nothing but blanks may be
left. -/
def readAll {α : Type} (read : List Char → Parsed α) (s : List Char) : Except Fault α :=
  match read s with
  | .error e => .error e
  | .ok (x, rest) => if (skipSpace rest).isEmpty then .ok x else .error .malformed

end RuleTrace.Json
