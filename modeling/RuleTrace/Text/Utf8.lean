/-!
# `RuleTrace.Text.Utf8`: reading octets as text

Names and files arrive as octets. `pieces` cuts an octet string into
the characters it encodes and the *ill-formed pieces* between them;
an ill-formed piece is a maximal initial part of some character's
encoding that is not continued, or a single octet that begins none.
Both readers are views of `pieces`: `decodeLossy` puts one U+FFFD for
each ill-formed piece, `decode?` accepts only text without any.

The set of well-formed encodings is told by the ranges in which the
octets after a lead octet must lie (`continuation`). Overlong forms,
surrogates and values past U+10FFFF are kept out by the first of
these ranges, so an ill-formed piece ends as early as it can.
-/

set_option autoImplicit false

namespace RuleTrace.Text.Utf8

/-- A closed range of octet values. -/
structure Range where
  first : UInt8
  last : UInt8
  deriving DecidableEq, Repr

/-- Whether an octet lies in the range. -/
def Range.contains (r : Range) (b : UInt8) : Bool := r.first ≤ b && b ≤ r.last

/-- The range of an unrestricted continuation octet. -/
def tail : Range := ⟨0x80, 0xBF⟩

/-- A character begun: the bits read so far, the range of the next
octet and of those after it. -/
structure Partial where
  bits : Nat
  next : Range
  later : List Range
  deriving DecidableEq, Repr

/-- What a single octet at the start of a character means. -/
inductive Lead where
  /-- a character of one octet -/
  | single (c : Char)
  /-- the first of several octets -/
  | opening (p : Partial)
  /-- no character starts with this octet -/
  | stray
  deriving DecidableEq, Repr

/-- Reads the first octet of a character. -/
def lead (b : UInt8) : Lead :=
  if b < 0x80 then .single (Char.ofNat b.toNat)
  else if b < 0xC2 then .stray
  else if b < 0xE0 then .opening ⟨b.toNat % 32, tail, []⟩
  else if b = 0xE0 then .opening ⟨0, ⟨0xA0, 0xBF⟩, [tail]⟩
  else if b = 0xED then .opening ⟨13, ⟨0x80, 0x9F⟩, [tail]⟩
  else if b < 0xF0 then .opening ⟨b.toNat % 16, tail, [tail]⟩
  else if b = 0xF0 then .opening ⟨0, ⟨0x90, 0xBF⟩, [tail, tail]⟩
  else if b = 0xF4 then .opening ⟨4, ⟨0x80, 0x8F⟩, [tail, tail]⟩
  else if b < 0xF4 then .opening ⟨b.toNat % 8, tail, [tail, tail]⟩
  else .stray

/-- The state after an octet that starts a character: the piece it
completes, if any, and the character it begins, if any. -/
def begin (b : UInt8) : List (Option Char) × Option Partial :=
  match lead b with
  | .single c => ([some c], none)
  | .opening p => ([], some p)
  | .stray => ([none], none)

/-- The state after one more octet. An octet outside the expected
range ends the character begun as an ill-formed piece and starts
anew. -/
def step (state : Option Partial) (b : UInt8) : List (Option Char) × Option Partial :=
  match state with
  | none => begin b
  | some p =>
    if p.next.contains b then
      let bits := 64 * p.bits + b.toNat % 64
      match p.later with
      | [] => ([some (Char.ofNat bits)], none)
      | r :: rs => ([], some ⟨bits, r, rs⟩)
    else
      let (out, state') := begin b
      (none :: out, state')

/-- The pieces of an octet string that follow a character begun. -/
def piecesFrom : Option Partial → List UInt8 → List (Option Char)
  | none, [] => []
  | some _, [] => [none]
  | state, b :: bs =>
    let (out, state') := step state b
    out ++ piecesFrom state' bs

/-- The characters of an octet string in order, with `none` for each
ill-formed piece. -/
def pieces (bs : List UInt8) : List (Option Char) := piecesFrom none bs

/-- The text with U+FFFD in place of each ill-formed piece. -/
def decodeLossy (bs : List UInt8) : List Char := (pieces bs).map (·.getD '\ufffd')

/-- The text, if all of it is well formed. -/
def decode? (bs : List UInt8) : Option (List Char) := (pieces bs).mapM id

/-- The octets of a text. -/
def encode (cs : List Char) : List UInt8 := cs.flatMap String.utf8EncodeChar

end RuleTrace.Text.Utf8
