import RuleTrace.Yaml.Scalar

/-!
# `RuleTrace.Yaml.Token`: the tokens of a document

Indentation becomes brackets here: a token says where a block of items
or of entries starts and where it ends, and every key has a token in
front of it. `Token.scan` finds the tokens of a text.

That a word is a key shows only at the colon after it. So where a key
may stand, the scanner keeps a `Candidate`: the place into which the
tokens of a key are put if the colon comes. It has to come on the same
line and within 1024 octets. Inside each pair of brackets there can be
one candidate, and the candidates of the brackets around are kept. A
candidate that stands where only a key can stand is *required* to
become one.

Anchors, aliases, tags, directives and literal blocks are not read.
-/

set_option autoImplicit false

namespace RuleTrace.Yaml

/-- A token of a document. -/
inductive Token where
  | documentStart
  | documentEnd
  /-- a block of items starts -/
  | itemsStart
  /-- a block of entries starts -/
  | entriesStart
  /-- a block ends -/
  | blockEnd
  | bracketOpen
  | bracketClose
  | braceOpen
  | braceClose
  | dash
  | comma
  | key
  | value
  | scalar (text : List Char) (plain : Bool)
  deriving DecidableEq, Repr

/-- A place where a key may have begun. -/
structure Candidate where
  /-- the number of tokens before it -/
  index : Nat
  required : Bool
  cell : Cell

/-- The greatest number of octets from the start of a key to its
colon. -/
def longestKey : Nat := 1024

/-- Whether the colon is overdue at a cell. -/
def Candidate.isStale (k : Candidate) (c : Cell) : Bool :=
  k.cell.line < c.line || k.cell.offset + longestKey < c.offset

/-- A text that is being cut into tokens. -/
structure Scanner where
  rest : List Cell
  /-- the tokens so far, last token first -/
  tokens : List Token
  /-- the columns of the open blocks, innermost first -/
  indents : List Nat
  candidate : Option Candidate
  /-- the candidates outside of each open bracket, innermost first -/
  outer : List (Option Candidate)
  keyAllowed : Bool

namespace Scanner

/-- A text of which nothing was read yet. -/
def new (rest : List Cell) : Scanner := ⟨rest, [], [], none, [], true⟩

/-- Whether this is inside brackets. -/
def inFlow (s : Scanner) : Bool := !s.outer.isEmpty

/-- The first column that lies inside of the innermost block. -/
def margin (s : Scanner) : Nat :=
  match s.indents with
  | [] => 0
  | column :: _ => column + 1

/-- Adds a token and goes on after it. -/
def add (s : Scanner) (t : Token) (rest : List Cell) : Scanner :=
  { s with tokens := t :: s.tokens, rest := rest }

/-- Puts a token in where so many tokens stand before it. -/
def insert (s : Scanner) (index : Nat) (t : Token) : Scanner :=
  let after := s.tokens.length - index
  { s with tokens := s.tokens.take after ++ t :: s.tokens.drop after }

def allowKey (s : Scanner) (allowed : Bool) : Scanner := { s with keyAllowed := allowed }

/-! ### Blanks -/

/-- Skips blanks, comments and line breaks, and a byte order mark at
the start of a line. A tab counts as a blank only where no key may
stand. Outside brackets a new line allows a key. -/
def skipFrom (flow comment keyAllowed : Bool) : List Cell → Bool × List Cell
  | [] => (keyAllowed, [])
  | c :: rest =>
    if isBreak c.char then skipFrom flow false (keyAllowed || !flow) rest
    else if comment || c.char = '#' then skipFrom flow true keyAllowed rest
    else if c.char = ' ' || (c.char = '\t' && (flow || !keyAllowed))
        || (c.char = '\ufeff' && c.column = 0) then
      skipFrom flow false keyAllowed rest
    else (keyAllowed, c :: rest)

/-- Skips to the next token. -/
def skip (s : Scanner) : Scanner :=
  let (keyAllowed, rest) := skipFrom s.inFlow false s.keyAllowed s.rest
  { s with keyAllowed := keyAllowed, rest := rest }

/-! ### Candidates and blocks -/

/-- Gives up a candidate that is stale at a cell. -/
def refresh (c : Cell) : Option Candidate → Option (Option Candidate)
  | none => some none
  | some k => if k.isStale c then if k.required then none else some none else some (some k)

/-- Gives up all candidates that are stale at a cell. -/
def dropStale (s : Scanner) (c : Cell) : Option Scanner := do
  let candidate ← refresh c s.candidate
  let outer ← s.outer.mapM (refresh c)
  return { s with candidate := candidate, outer := outer }

/-- Gives up the candidate. -/
def dropCandidate (s : Scanner) : Option Scanner :=
  if s.candidate.any Candidate.required then none else some { s with candidate := none }

/-- Makes a cell the candidate, if a key may stand there. -/
def propose (s : Scanner) (c : Cell) : Option Scanner :=
  if s.keyAllowed then do
    let s ← s.dropCandidate
    let required := !s.inFlow && s.margin = c.column + 1
    return { s with candidate := some ⟨s.tokens.length, required, c⟩ }
  else some s

/-- Ends the blocks whose column is too great. -/
def closeBlocks (tooGreat : Nat → Bool) (s : Scanner) : Scanner :=
  if s.inFlow then s
  else
    { s with
      indents := s.indents.dropWhile tooGreat
      tokens := (s.indents.takeWhile tooGreat).map (fun _ => .blockEnd) ++ s.tokens }

/-- Starts a block in a column, if the innermost one is further left;
its token gets the index. -/
def openBlock (s : Scanner) (column index : Nat) (t : Token) : Scanner :=
  if !s.inFlow && s.margin ≤ column then
    { s.insert index t with indents := column :: s.indents }
  else s

/-- Starts a block at a cell where a key must be allowed to stand,
unless this is inside brackets. -/
def openBlockHere (s : Scanner) (c : Cell) (t : Token) : Option Scanner :=
  if s.inFlow then some s
  else if s.keyAllowed then some (s.openBlock c.column s.tokens.length t)
  else none

/-! ### Tokens -/

/-- Reads a marker between documents. -/
def readMarker (s : Scanner) (t : Token) (rest : List Cell) : Option Scanner := do
  let s ← (s.closeBlocks fun _ => true).dropCandidate
  return (s.allowKey false).add t (rest.drop 2)

/-- Reads an opening bracket. -/
def readOpen (s : Scanner) (c : Cell) (t : Token) (rest : List Cell) : Option Scanner := do
  let s ← s.propose c
  return ({ s with candidate := none, outer := s.candidate :: s.outer }.allowKey true).add t rest

/-- Reads a closing bracket. -/
def readClose (s : Scanner) (t : Token) (rest : List Cell) : Option Scanner := do
  let s ← s.dropCandidate
  let s := match s.outer with
    | [] => s
    | candidate :: outer => { s with candidate := candidate, outer := outer }
  return (s.allowKey false).add t rest

/-- Reads a comma. -/
def readComma (s : Scanner) (rest : List Cell) : Option Scanner := do
  return ((← s.dropCandidate).allowKey true).add .comma rest

/-- Reads the dash of an item. -/
def readDash (s : Scanner) (c : Cell) (rest : List Cell) : Option Scanner := do
  let s ← (← s.openBlockHere c .itemsStart).dropCandidate
  return (s.allowKey true).add .dash rest

/-- Reads the mark of a key. -/
def readKey (s : Scanner) (c : Cell) (rest : List Cell) : Option Scanner := do
  let s ← (← s.openBlockHere c .entriesStart).dropCandidate
  return (s.allowKey !s.inFlow).add .key rest

/-- Reads a colon. It makes a key of the candidate; without one it
stands for itself. -/
def readColon (s : Scanner) (c : Cell) (rest : List Cell) : Option Scanner :=
  match s.candidate with
  | some k =>
    let s := (s.insert k.index .key).openBlock k.cell.column k.index .entriesStart
    some (({ s with candidate := none }.allowKey false).add .value rest)
  | none => do
    let s ← s.openBlockHere c .entriesStart
    return (s.allowKey !s.inFlow).add .value rest

/-- Reads a quoted scalar. -/
def readQuoted (s : Scanner) (c : Cell) (r : Option Scanned) : Option Scanner := do
  let s ← s.propose c
  let r ← r
  return (s.allowKey false).add (.scalar r.text false) r.rest

/-- Reads a plain scalar. -/
def readPlain (s : Scanner) (c : Cell) (rest : List Cell) : Option Scanner := do
  let s ← s.propose c
  let r ← plainFrom s.inFlow s.margin [] .empty (c :: rest)
  return (s.allowKey r.broken).add (.scalar r.text true) r.rest

/-- Reads the token that starts at a cell. -/
def readToken (s : Scanner) (c : Cell) (rest : List Cell) : Option Scanner :=
  if isMarker '-' (c :: rest) then s.readMarker .documentStart rest
  else if isMarker '.' (c :: rest) then s.readMarker .documentEnd rest
  else if c.char = '[' then s.readOpen c .bracketOpen rest
  else if c.char = '\x7b' then s.readOpen c .braceOpen rest
  else if c.char = ']' then s.readClose .bracketClose rest
  else if c.char = '\x7d' then s.readClose .braceClose rest
  else if c.char = ',' then s.readComma rest
  else if c.char = '-' && atGap rest then s.readDash c rest
  else if c.char = '?' && (s.inFlow || atGap rest) then s.readKey c rest
  else if c.char = ':' && (s.inFlow || atGap rest) then s.readColon c rest
  else if c.char = '\'' then s.readQuoted c (singleFrom [] .empty false rest)
  else if c.char = '"' then s.readQuoted c (doubleFrom [] .empty .plain rest)
  else if startsPlain c.char rest then s.readPlain c rest
  else none

/-- Reads tokens to the end, in so many rounds at most. -/
def scanFrom : Nat → Scanner → Option (List Token)
  | 0, _ => none
  | rounds + 1, s =>
    let s := s.skip
    match s.rest with
    | [] => (s.closeBlocks fun _ => true).dropCandidate.map fun s => s.tokens.reverse
    | c :: rest => do
      let s ← s.dropStale c
      scanFrom rounds (← (s.closeBlocks (c.column < ·)).readToken c rest)

end Scanner

/-- The tokens of a text. Each takes at least one character. -/
def Token.scan (text : List Char) : Option (List Token) :=
  let cs := cells text
  (Scanner.new cs).scanFrom (cs.length + 1)

end RuleTrace.Yaml
