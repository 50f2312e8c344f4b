import RuleTrace.Json.Reader

/-!
# `RuleTrace.Json.Codec`: JSON for known types

A codec knows how a type is written and has two ways to read it:
straight from the text (`Codec.read`), which stops at the first fault
and does not look at what it skips, and from a value that was read
before (`Codec.ofValue?`).

Codecs are put together from smaller ones. A structure is read from an
object, in which unknown members are skipped, missing ones keep their
default and no known one may occur twice; or from an array of its
fields in order, of which the last ones may be missing.
-/

set_option autoImplicit false

namespace RuleTrace.Json

/-- The two readers and the writer of a type. -/
structure Codec (α : Type) where
  read : List Char → Parsed α
  ofValue? : Value → Option α
  toValue : α → Value

/-- The field of a structure `σ`: its name, its readers, which put what
they read into a structure, and its writer. -/
structure StructField (σ : Type) where
  name : String
  read : σ → List Char → Parsed σ
  ofValue? : σ → Value → Option σ
  toValue : σ → Value

/-- A field with the codec of its type. -/
def StructField.of {σ α : Type} (name : String) (c : Codec α) (get : σ → α) (set : σ → α → σ) :
    StructField σ where
  name := name
  read x s := (c.read s).map fun (y, rest) => (set x y, rest)
  ofValue? x v := (c.ofValue? v).map (set x)
  toValue x := c.toValue (get x)

/-- The fault of a value that does not fit. -/
def orMismatch {α : Type} (x : Option α) (rest : List Char) : Parsed α :=
  match x with
  | some x => .ok (x, rest)
  | none => .error .mismatch

/-- Reads a value without parts and converts it. A bracket does not
fit, whatever follows it. -/
def readScalarAs {α : Type} (ofValue? : Value → Option α) (s : List Char) : Parsed α :=
  match skipSpace s with
  | [] => .error .unfinished
  | c :: rest =>
    if c = '[' ∨ c = '\x7b' then .error .mismatch
    else
      match readScalar (c :: rest) with
      | .error e => .error e
      | .ok (v, rest) => orMismatch (ofValue? v) rest

namespace Codec

variable {α β σ : Type}

/-- The compact text of a value. -/
def render (c : Codec α) (x : α) : List Char := (c.toValue x).render

/-- Reads a whole text. -/
def parse (c : Codec α) (s : List Char) : Except Fault α := readAll c.read s

/-- A codec for values without parts. -/
def scalar (ofValue? : Value → Option α) (toValue : α → Value) : Codec α where
  read := readScalarAs ofValue?
  ofValue? := ofValue?
  toValue := toValue

/-- The natural numbers below a bound of at most `2 ^ 64`. -/
def natural (bound : Nat) : Codec Nat :=
  scalar (fun v =>
      match v with
      | .number (.natural n) => if n < bound then some n else none
      | _ => none)
    fun n => .number (.natural n)

/-- The number of an integer. -/
def numberOfInt (z : Int) : Number :=
  if z < 0 then .negative z.natAbs else .natural z.natAbs

/-- The integers from `low` to below `high`. -/
def integer (low high : Int) : Codec Int :=
  let fits (z : Int) : Option Int := if low ≤ z ∧ z < high then some z else none
  scalar (fun v =>
      match v with
      | .number (.natural n) => fits n
      | .number (.negative n) => fits (-n)
      | _ => none)
    fun z => .number (numberOfInt z)

/-- Texts. -/
def text : Codec String :=
  scalar (fun v =>
      match v with
      | .string s => some s
      | _ => none)
    .string

/-- The codec of a type that stands for another one. -/
def map (c : Codec α) (f : α → β) (g : β → α) : Codec β where
  read s := (c.read s).map fun (x, rest) => (f x, rest)
  ofValue? v := (c.ofValue? v).map f
  toValue y := c.toValue (g y)

def word8 : Codec UInt8 := (natural UInt8.size).map UInt8.ofNat UInt8.toNat
def word16 : Codec UInt16 := (natural UInt16.size).map UInt16.ofNat UInt16.toNat
def word32 : Codec UInt32 := (natural UInt32.size).map UInt32.ofNat UInt32.toNat
def word64 : Codec UInt64 := (natural UInt64.size).map UInt64.ofNat UInt64.toNat
def int32 : Codec Int32 := (integer (-2147483648) 2147483648).map Int32.ofInt Int32.toInt

/-- What may be absent, written as null. -/
def optional (c : Codec α) : Codec (Option α) where
  read s :=
    match skipSpace s with
    | 'n' :: rest => (literal "ull".toList rest).map fun rest => (none, rest)
    | s => (c.read s).map fun (x, rest) => (some x, rest)
  ofValue? v :=
    match v with
    | .null => some none
    | v => (c.ofValue? v).map some
  toValue x :=
    match x with
    | none => .null
    | some x => c.toValue x

/-- Lists, written as arrays. -/
def list (c : Codec α) : Codec (List α) where
  read s :=
    match skipSpace s with
    | '[' :: rest =>
      elements (fun _ => true) (fun xs s =>
        (c.read s).map fun (x, rest) => (xs ++ [x], rest)) [] rest
    | s => readScalarAs (fun _ => none) s
  ofValue? v :=
    match v with
    | .array vs => vs.mapM c.ofValue?
    | _ => none
  toValue xs := .array (xs.map c.toValue)

/-! ### Structures -/

/-- The field of a name. -/
def find? (fields : List (StructField σ)) (name : String) : Option (StructField σ) :=
  fields.find? fun f => f.name = name

/-- Reads one member, at its colon, into a structure of which some
fields were seen. -/
def readMember (fields : List (StructField σ)) (state : σ × List String) (name : String)
    (s : List Char) : Parsed (σ × List String) :=
  let (x, seen) := state
  match find? fields name with
  | none => (afterColon skipValue s).map fun ((), rest) => (state, rest)
  | some f =>
    if name ∈ seen then .error .mismatch
    else (afterColon (f.read x) s).map fun (x, rest) => ((x, name :: seen), rest)

/-- Reads one element into the next field of a structure. -/
def readElement (state : σ × List (StructField σ)) (s : List Char) :
    Parsed (σ × List (StructField σ)) :=
  match state with
  | (_, []) => .error .malformed
  | (x, f :: fs) => (f.read x s).map fun (x, rest) => ((x, fs), rest)

/-- Puts members into a structure, of which some fields were seen. -/
def ofMembers? (fields : List (StructField σ)) : σ → List String → List (String × Value) → Option σ
  | x, _, [] => some x
  | x, seen, (name, v) :: rest =>
    match find? fields name with
    | none => ofMembers? fields x seen rest
    | some f =>
      if name ∈ seen then none
      else (f.ofValue? x v).bind fun x => ofMembers? fields x (name :: seen) rest

/-- Puts elements into the fields of a structure. -/
def ofElements? : List (StructField σ) → σ → List Value → Option σ
  | _, x, [] => some x
  | [], _, _ :: _ => none
  | f :: fs, x, v :: vs => (f.ofValue? x v).bind fun x => ofElements? fs x vs

/-- The members of a structure. -/
def toMembers (fields : List (StructField σ)) (x : σ) : List (String × Value) :=
  fields.map fun f => (f.name, f.toValue x)

/-- Structures with the given fields; what is missing is taken from
`default`. -/
def struct (fields : List (StructField σ)) (default : σ) : Codec σ where
  read s :=
    match skipSpace s with
    | '\x7b' :: rest =>
      (members readString (readMember fields) (default, []) rest).map
        fun ((x, _), rest) => (x, rest)
    | '[' :: rest =>
      (elements (fun state => !state.2.isEmpty) readElement (default, fields) rest).map
        fun ((x, _), rest) => (x, rest)
    | s => readScalarAs (fun _ => none) s
  ofValue? v :=
    match v with
    | .object ms => ofMembers? fields default [] ms
    | .array vs => ofElements? fields default vs
    | _ => none
  toValue x := .object (toMembers fields x)

end Codec

end RuleTrace.Json
