import RuleTrace.Text.Numeral

/-!
# `RuleTrace.Yaml.Scalar`: characters with their places, and scalars

Indentation is part of the format, and keys are limited in length, so a
document is read as a list of cells: characters with line, column and
the number of octets before them. This module tells blanks, line breaks
and the markers between documents apart, and reads the three kinds of
scalar. Each is read by a machine that goes from cell to cell.

Inside a scalar a stretch of blanks and line breaks is a `Gap`. A gap
without a break stands for itself. One with a single break becomes a
space, one with more becomes the breaks after the first; blanks around
breaks are dropped. A gap after the last word of a plain scalar does
not belong to it.
-/

set_option autoImplicit false

namespace RuleTrace.Yaml

/-- A character and its place. -/
structure Cell where
  char : Char
  line : Nat
  column : Nat
  /-- the number of octets before it -/
  offset : Nat
  deriving DecidableEq, Repr

/-- Characters that end a line, once the ways to write one were made
equal. -/
def isBreak (c : Char) : Bool := c = '\n' || c = '\u2028' || c = '\u2029'

/-- Characters that part words within a line. -/
def isBlank (c : Char) : Bool := c = ' ' || c = '\t'

/-- The text with a line feed for each way to end a line, except for
the two separators that are kept. -/
def unifyBreaks : List Char → List Char
  | [] => []
  | '\r' :: '\n' :: s => '\n' :: unifyBreaks s
  | '\r' :: s => '\n' :: unifyBreaks s
  | '\u0085' :: s => '\n' :: unifyBreaks s
  | c :: s => c :: unifyBreaks s

/-- The cells of a text from a place on. -/
def cellsFrom (line column offset : Nat) : List Char → List Cell
  | [] => []
  | c :: s =>
    ⟨c, line, column, offset⟩ ::
      if isBreak c then cellsFrom (line + 1) 0 (offset + c.utf8Size) s
      else cellsFrom line (column + 1) (offset + c.utf8Size) s

/-- The cells of a text. -/
def cells (s : List Char) : List Cell := cellsFrom 0 0 0 (unifyBreaks s)

/-- Whether a word ends here. -/
def atGap (s : List Cell) : Bool := s.head?.all fun c => isBlank c.char || isBreak c.char

/-- Whether the next character is `c`. -/
def startsWith (c : Char) (s : List Cell) : Bool := s.head?.any (·.char = c)

/-- Whether a line of three times `c` starts here. -/
def isMarker (c : Char) (s : List Cell) : Bool :=
  match s with
  | x :: y :: z :: rest =>
    x.column = 0 && x.char = c && y.char = c && z.char = c && atGap rest
  | _ => false

/-- Whether a document starts or ends here. -/
def atMarker (s : List Cell) : Bool := isMarker '-' s || isMarker '.' s

/-- Blanks and line breaks between two words. -/
structure Gap where
  blanks : List Char
  breaks : List Char
  /-- whether the first break was escaped and so stands for nothing -/
  escaped : Bool

namespace Gap

def empty : Gap := ⟨[], [], false⟩

/-- Whether the gap goes over a line. -/
def isBroken (g : Gap) : Bool := g.escaped || !g.breaks.isEmpty

def isEmpty (g : Gap) : Bool := g.blanks.isEmpty && !g.isBroken

/-- The gap with one more blank; blanks after a break do not count. -/
def addBlank (g : Gap) (c : Char) : Gap :=
  if g.isBroken then g else { g with blanks := g.blanks ++ [c] }

def addBreak (g : Gap) (c : Char) : Gap := { g with breaks := g.breaks ++ [c] }

/-- What the gap stands for. -/
def text (g : Gap) : List Char :=
  if g.escaped then g.breaks
  else
    match g.breaks with
    | [] => g.blanks
    | ['\n'] => [' ']
    | '\n' :: more => more
    | breaks => breaks

end Gap

/-- A scalar that was read: its text, whether a line ended after it,
and the cells that follow. -/
structure Scanned where
  text : List Char
  broken : Bool
  rest : List Cell

/-! ### Plain scalars -/

/-- The characters that have a meaning inside brackets. -/
def isFlowIndicator (c : Char) : Bool :=
  c = ',' || c = '[' || c = ']' || c = '\x7b' || c = '\x7d'

/-- Whether a plain scalar ends before this character. -/
def endsPlain (flow : Bool) (c : Char) (rest : List Cell) : Bool :=
  (c = ':' && atGap rest) || (flow && isFlowIndicator c)

/-- Whether a colon stands before a character that cannot follow it
inside brackets. -/
def isStrayColon (flow : Bool) (c : Char) (rest : List Cell) : Bool :=
  flow && c = ':' && rest.head?.any fun n => isFlowIndicator n.char || n.char = '?'

/-- Whether a plain scalar ends at a word after a gap. -/
def endsAfterGap (flow : Bool) (indent : Nat) (gap : Gap) (c : Cell) (rest : List Cell) : Bool :=
  !gap.isEmpty &&
    ((!flow && gap.isBroken && c.column < indent) || atMarker (c :: rest) || c.char = '#')

/-- Reads on in a plain scalar. Outside brackets, lines that do not
reach the column `indent` do not belong to it; anywhere, a tab must not
stand before that column. -/
def plainFrom (flow : Bool) (indent : Nat) (text : List Char) (gap : Gap) :
    List Cell → Option Scanned
  | [] => some ⟨text, gap.isBroken, []⟩
  | c :: rest =>
    if isBlank c.char then
      if gap.isBroken && c.column < indent && c.char = '\t' then none
      else plainFrom flow indent text (gap.addBlank c.char) rest
    else if isBreak c.char then plainFrom flow indent text (gap.addBreak c.char) rest
    else if endsAfterGap flow indent gap c rest then some ⟨text, gap.isBroken, c :: rest⟩
    else if isStrayColon flow c.char rest then none
    else if endsPlain flow c.char rest then some ⟨text, gap.isBroken, c :: rest⟩
    else plainFrom flow indent (text ++ gap.text ++ [c.char]) .empty rest

/-- Whether a plain scalar can start with this character. -/
def startsPlain (c : Char) (rest : List Cell) : Bool :=
  if c = '-' ∨ c = '?' ∨ c = ':' then !atGap rest
  else !(isBlank c || isBreak c || isFlowIndicator c
    || ['#', '&', '*', '!', '|', '>', '\'', '"', '%', '@', '\x60'].contains c)

/-! ### Quoted scalars -/

/-- Reads on in a scalar between single quotes; `doubled` is true after
the first of two quotes that stand for one. -/
def singleFrom (text : List Char) (gap : Gap) (doubled : Bool) : List Cell → Option Scanned
  | [] => none
  | c :: rest =>
    if doubled then singleFrom (text ++ ['\'']) .empty false rest
    else if isBlank c.char then singleFrom text (gap.addBlank c.char) false rest
    else if isBreak c.char then singleFrom text (gap.addBreak c.char) false rest
    else if atMarker (c :: rest) then none
    else if c.char = '\'' then
      if startsWith '\'' rest then singleFrom (text ++ gap.text) .empty true rest
      else some ⟨text ++ gap.text, false, rest⟩
    else singleFrom (text ++ gap.text ++ [c.char]) .empty false rest

/-- A place inside a scalar between double quotes. -/
inductive Place where
  | plain
  /-- after a backslash -/
  | escape
  /-- inside a numeric escape: digits missing, and the value so far -/
  | digits (missing value : Nat)

/-- The character for a letter after a backslash. -/
def unescape? (c : Char) : Option Char :=
  match c with
  | '0' => some '\x00'
  | 'a' => some '\x07'
  | 'b' => some '\x08'
  | 't' => some '\t'
  | '\t' => some '\t'
  | 'n' => some '\n'
  | 'v' => some '\x0b'
  | 'f' => some '\x0c'
  | 'r' => some '\r'
  | 'e' => some '\x1b'
  | ' ' => some ' '
  | '"' => some '"'
  | '/' => some '/'
  | '\\' => some '\\'
  | 'N' => some '\u0085'
  | '_' => some '\u00a0'
  | 'L' => some '\u2028'
  | 'P' => some '\u2029'
  | _ => none

/-- The number of digits after a letter that begins a numeric escape. -/
def escapeWidth? (c : Char) : Option Nat :=
  match c with
  | 'x' => some 2
  | 'u' => some 4
  | 'U' => some 8
  | _ => none

/-- Reads on in a scalar between double quotes. -/
def doubleFrom (text : List Char) (gap : Gap) : Place → List Cell → Option Scanned
  | _, [] => none
  | .plain, c :: rest =>
    if isBlank c.char then doubleFrom text (gap.addBlank c.char) .plain rest
    else if isBreak c.char then doubleFrom text (gap.addBreak c.char) .plain rest
    else if atMarker (c :: rest) then none
    else if c.char = '"' then some ⟨text ++ gap.text, false, rest⟩
    else if c.char = '\\' then doubleFrom (text ++ gap.text) .empty .escape rest
    else doubleFrom (text ++ gap.text ++ [c.char]) .empty .plain rest
  | .escape, c :: rest =>
    -- A backslash at the end of a line joins it to the next one.
    if isBreak c.char then doubleFrom text { Gap.empty with escaped := true } .plain rest
    else
      match unescape? c.char, escapeWidth? c.char with
      | some u, _ => doubleFrom (text ++ [u]) .empty .plain rest
      | none, some width => doubleFrom text .empty (.digits width 0) rest
      | none, none => none
  | .digits missing value, c :: rest =>
    match Text.hexDigit? c.char with
    | none => none
    | some d =>
      let value := 16 * value + d
      if missing ≤ 1 then
        match Text.charOf? value with
        | some u => doubleFrom (text ++ [u]) .empty .plain rest
        | none => none
      else doubleFrom text .empty (.digits (missing - 1) value) rest

end RuleTrace.Yaml
