import RuleTrace.Text.Alphanumeric
import RuleTrace.Text.Numeral

/-!
# `RuleTrace.LogFilter.Pattern`: which patterns are well formed

The value of a field in a filter is a regular expression. It has
alternatives, groups with or without a name, sets of characters with
ranges, classes, nested sets and set operations, the repetitions `?`,
`*` and `+`, escapes, and flags that hold to the end of their group.
Repetition counts are not among its notations, since a brace ends the
field.

A pattern is about characters unless the flag `u` is turned off; then
it is about octets. About characters it may use neither the classes
`\d`, `\s` and `\w`, nor word boundaries, nor the flag `i`, for there
are no tables for them. About octets it may do all that, as long as it
cannot match what is no text: so nothing may be negated, and an octet
must be below 128.

Nothing may be nested more than 250 deep. Reading a pattern therefore
yields the heights of its pieces.
-/

set_option autoImplicit false

namespace RuleTrace.LogFilter.Pattern

/-- The flags that decide what a pattern may hold. -/
structure Flags where
  /-- `i`: the case of letters does not matter -/
  ignoreCase : Bool
  /-- `u`: the pattern is about characters and not about octets -/
  unicode : Bool
  /-- `x`: blanks and comments do not count -/
  verbose : Bool
  deriving DecidableEq, Repr

/-- The flags at the start. -/
def Flags.standard : Flags := ⟨false, true, false⟩

/-- The flags with one of them turned on or off. -/
def Flags.set (f : Flags) (flag : Char) (on : Bool) : Flags :=
  match flag with
  | 'i' => { f with ignoreCase := on }
  | 'u' => { f with unicode := on }
  | 'x' => { f with verbose := on }
  | _ => f

/-- Whether a character may stand for itself. -/
def Flags.allowsLiteral (f : Flags) : Bool := !(f.ignoreCase && f.unicode)

/-- Skips blanks and comments; `inComment` holds inside a comment. -/
def skipBlanks (inComment : Bool) : List Char → List Char
  | [] => []
  | c :: s =>
    if inComment then skipBlanks (c != '\n') s
    else if Text.isBlank c then skipBlanks false s
    else if c = '#' then skipBlanks true s
    else c :: s

/-- Skips blanks and comments where they do not count. -/
def skip (f : Flags) (s : List Char) : List Char := if f.verbose then skipBlanks false s else s

/-! ### Escapes -/

/-- What a backslash and the characters after it stand for. -/
inductive Escape where
  /-- a character, or an octet -/
  | literal (c : Char) (isOctet : Bool)
  /-- one of the classes that have a letter, or all other characters -/
  | charClass (negated : Bool)
  /-- the start or the end of the text -/
  | edge
  /-- a place where a word begins or ends, or where none does -/
  | wordEdge
  deriving DecidableEq, Repr

/-- The characters that have a meaning of their own. -/
def metaCharacters : List Char :=
  ['\\', '.', '+', '*', '?', '(', ')', '|', '[', ']', '\x7b', '\x7d', '^', '$', '#', '&', '-', '~']

/-- Whether a character stands for itself after a backslash. -/
def isEscapable (c : Char) : Bool :=
  metaCharacters.contains c || (c.toNat < 128 && !c.isAlphanum && c ≠ '<' && c ≠ '>')

/-- The character that a letter stands for after a backslash. -/
def control? (c : Char) : Option Char :=
  match c with
  | 'a' => some '\x07'
  | 't' => some '\t'
  | 'n' => some '\n'
  | 'v' => some '\x0b'
  | 'f' => some '\x0c'
  | 'r' => some '\r'
  | _ => none

/-- Reads so many hexadecimal digits, from a value on. -/
def readHex (f : Flags) : Nat → Nat → List Char → Option (Nat × List Char)
  | 0, value, s => some (value, s)
  | _ + 1, _, [] => none
  | count + 1, value, c :: s => do
    readHex f count (16 * value + (← Text.hexDigit? c)) (skip f s)

/-- Reads a character by its number. -/
def readCode (f : Flags) (count : Nat) (s : List Char) : Option (Escape × List Char) := do
  let (n, s) ← readHex f count 0 (skip f s)
  return (.literal (← Text.charOf? n) (count = 2), s)

/-- Reads an escape after its backslash. -/
def readEscape (f : Flags) : List Char → Option (Escape × List Char)
  | [] => none
  | c :: s =>
    if isEscapable c then some (.literal c false, s)
    else if ['d', 's', 'w'].contains c then some (.charClass false, s)
    else if ['D', 'S', 'W'].contains c then some (.charClass true, s)
    else if c = 'A' ∨ c = 'z' then some (.edge, s)
    else if ['b', 'B', '<', '>'].contains c then some (.wordEdge, s)
    else if c = 'x' then readCode f 2 s
    else if c = 'u' then readCode f 4 s
    else if c = 'U' then readCode f 8 s
    else (control? c).map fun c => (.literal c false, s)

/-- Whether an octet or a character may be meant. -/
def allowsCode (f : Flags) (c : Char) (isOctet : Bool) : Bool :=
  f.unicode || !isOctet || c.toNat < 128

/-- Whether a class may be meant. -/
def allowsClass (f : Flags) (negated : Bool) : Bool := !f.unicode && !negated

/-- Whether an escape may stand outside of a set. -/
def allowsEscape (f : Flags) : Escape → Bool
  | .literal c isOctet => f.allowsLiteral && allowsCode f c isOctet
  | .charClass negated => allowsClass f negated
  | .edge => true
  | .wordEdge => !f.unicode

/-! ### Sets -/

/-- The names of the classes in brackets and colons. -/
def classNames : List (List Char) :=
  ["alnum", "alpha", "ascii", "blank", "cntrl", "digit", "graph", "lower", "print", "punct",
    "space", "upper", "word", "xdigit"].map String.toList

/-- Reads a class in brackets and colons after its bracket, if there is
one; whether it is negated. -/
def readNamedClass : List Char → Option (Bool × List Char)
  | ':' :: s =>
    let negated := s.head? = some '^'
    let s := if negated then s.tail else s
    let name := s.takeWhile (· != ':')
    match s.dropWhile (· != ':') with
    | ':' :: ']' :: s => if classNames.contains name then some (negated, s) else none
    | _ => none
  | _ => none

/-- An item of a set. -/
inductive SetItem where
  | literal (c : Char)
  | charClass
  deriving DecidableEq, Repr

/-- Reads one character or class of a set. -/
def readSetItem (f : Flags) : List Char → Option (SetItem × List Char)
  | [] => none
  | '\\' :: s =>
    match readEscape f s with
    | some (.literal c isOctet, s) =>
      if allowsCode f c isOctet then some (.literal c, s) else none
    | some (.charClass negated, s) => if allowsClass f negated then some (.charClass, s) else none
    | _ => none
  | c :: s => some (.literal c, s)

/-- Whether a character may be an item of a set. -/
def allowsItem (f : Flags) (c : Char) : Bool := f.allowsLiteral && (f.unicode || c.toNat < 128)

/-- Whether an item may be in a set. -/
def SetItem.isAllowed (f : Flags) : SetItem → Bool
  | .literal c => allowsItem f c
  | .charClass => true

/-- Reads a range, or an item that begins none. -/
def readRange (f : Flags) (s : List Char) : Option (List Char) := do
  let (first, s) ← readSetItem f s
  let s := skip f s
  let single := if first.isAllowed f then some s else none
  match s with
  | [] => none
  | '-' :: after =>
    match skip f after with
    | [] => none
    | next :: _ =>
      -- A dash at the end of a set, or before another dash, begins no range.
      if next = ']' ∨ next = '-' then single
      else
        let (last, s) ← readSetItem f (skip f after)
        match first, last with
        | .literal a, .literal b =>
          if a ≤ b ∧ allowsItem f a ∧ allowsItem f b then some s else none
        | _, _ => none
  | _ => single

/-- The height of things that stand side by side. -/
def together : List Nat → Nat
  | [] => 0
  | [h] => h
  | hs => hs.foldl max 0 + 1

/-- The height of a set up to here: of what stands before the last
operation, if there was one, and of the items after it. -/
def joined (before : Option Nat) (items : List Nat) : Nat :=
  match before with
  | none => together items
  | some h => max h (together items) + 1

/-- Whether a set operation starts here. -/
def atOperation : List Char → Bool
  | '&' :: '&' :: _ => true
  | '-' :: '-' :: _ => true
  | '~' :: '~' :: _ => true
  | _ => false

/-- Reads the hyphens with which a set may begin. -/
def readHyphens (f : Flags) : Nat → List Nat → List Char → List Nat × List Char
  | 0, items, s => (items, s)
  | fuel + 1, items, s =>
    match s with
    | '-' :: s => readHyphens f fuel (0 :: items) (skip f s)
    | s => (items, s)

/-- Reads the start of a set after its bracket: whether it is negated,
and the items that stand for themselves only here. -/
def readSetStart (f : Flags) (s : List Char) : Option (Bool × List Nat × List Char) :=
  let s := skip f s
  let negated := s.head? = some '^'
  let s := if negated then skip f s.tail else s
  let (items, s) := readHyphens f s.length [] s
  if negated && !f.unicode || !items.isEmpty && !allowsItem f '-' then none
  else
    match s with
    | [] => none
    | ']' :: after =>
      if items.isEmpty then
        if allowsItem f ']' then some (negated, [0], skip f after) else none
      else some (negated, items, s)
    | s => some (negated, items, s)

/-- Reads a set to its closing bracket. -/
def readSet (f : Flags) : Nat → Option Nat → List Nat → List Char → Option (Nat × List Char)
  | 0, _, _, _ => none
  | fuel + 1, before, items, s =>
    match skip f s with
    | [] => none
    | ']' :: s => some (joined before items + 1, s)
    | '[' :: s =>
      match readNamedClass s with
      | some (negated, s) =>
        if f.allowsLiteral && (f.unicode || !negated) then readSet f fuel before (0 :: items) s
        else none
      | none => do
        let (_, first, s) ← readSetStart f s
        let (height, s) ← readSet f fuel none first s
        readSet f fuel before (height :: items) s
    | s =>
      -- Between two operands both characters of the operation are passed.
      if atOperation s then readSet f fuel (some (joined before items)) [] (s.drop 2)
      else do readSet f fuel before (0 :: items) (← readRange f s)

/-! ### Groups -/

/-- Whether a character may be in the name of a group, or begin it. -/
def isNameCharacter (first : Bool) (c : Char) : Bool :=
  c = '_' || (if first then Text.isAlphabetic c
    else ['.', '[', ']'].contains c || Text.isAlphanumeric c)

/-- Reads the name of a group; no two groups may have the same. -/
def readName (names : List (List Char)) (s : List Char) : Option (List Char × List Char) :=
  let name := s.takeWhile (· != '>')
  match name, s.dropWhile (· != '>') with
  | c :: cs, '>' :: s =>
    if isNameCharacter true c ∧ cs.all (isNameCharacter false) ∧ !names.contains name then
      some (name, s)
    else none
  | _, _ => none

/-- The flags there are. -/
def flagNames : List Char := ['i', 's', 'm', 'U', 'u', 'R', 'x']

/-- Reads flags up to a colon or a parenthesis: those to turn on, then
those to turn off after a minus sign. Each of them may come once. -/
def readFlags (f : Flags) (on : Bool) (seen : List Char) :
    List Char → Option (Flags × List Char × List Char)
  | [] => none
  | c :: s =>
    if c = ':' ∨ c = ')' then
      if seen.head? = some '-' then none else some (f, seen, c :: s)
    else if seen.contains c then none
    else if c = '-' then readFlags f false (c :: seen) s
    else if flagNames.contains c then readFlags (f.set c on) on (c :: seen) s
    else none

/-- What an opening parenthesis begins. -/
inductive Opening where
  /-- flags for the rest of the group around it -/
  | flags (f : Flags) (rest : List Char)
  /-- a group with its flags -/
  | group (f : Flags) (names : List (List Char)) (rest : List Char)

/-- Reads what follows an opening parenthesis. -/
def readOpening (f : Flags) (names : List (List Char)) (s : List Char) : Option Opening :=
  let named (s : List Char) : Option Opening :=
    (readName names s).map fun (name, s) => .group f (name :: names) s
  match skip f s with
  | '?' :: '=' :: _ => none
  | '?' :: '!' :: _ => none
  | '?' :: '<' :: '=' :: _ => none
  | '?' :: '<' :: '!' :: _ => none
  | '?' :: 'P' :: '<' :: s => named s
  | '?' :: '<' :: s => named s
  | '?' :: s =>
    match readFlags f true [] s with
    | some (inner, _, ':' :: s) => some (.group inner names s)
    | some (after, seen, ')' :: s) => if seen.isEmpty then none else some (.flags after s)
    | _ => none
  | s => some (.group f names s)

/-! ### Patterns -/

/-- A piece of an alternative. -/
inductive Piece where
  /-- flags, which cannot be repeated -/
  | flags
  | item (height : Nat)
  deriving DecidableEq, Repr

/-- The height of a piece. -/
def Piece.height : Piece → Nat
  | flags => 0
  | item h => h

/-- The height of alternatives. The last one is still a list of pieces,
last piece first. -/
def heightOf (alternatives : List Nat) (pieces : List Piece) : Nat :=
  together (together (pieces.map Piece.height) :: alternatives)

/-- Reads alternatives up to a closing parenthesis or to the end: their
height, the names of all groups, and what follows. -/
def readAlternatives : Nat → Flags → List (List Char) → List Nat → List Piece → List Char →
    Option (Nat × List (List Char) × List Char)
  | 0, _, _, _, _, _ => none
  | fuel + 1, f, names, alternatives, pieces, s =>
    let goOn (s : List Char) := readAlternatives fuel f names alternatives (.item 0 :: pieces) s
    match skip f s with
    | [] => some (heightOf alternatives pieces, names, [])
    | c :: s =>
      if c = ')' then some (heightOf alternatives pieces, names, c :: s)
      else if c = '|' then
        readAlternatives fuel f names (together (pieces.map Piece.height) :: alternatives) [] s
      else if c = '(' then
        match readOpening f names s with
        | none => none
        -- Flags change the rest of the group that they stand in.
        | some (.flags after s) =>
          readAlternatives fuel after names alternatives (.flags :: pieces) s
        | some (.group inner names s) =>
          match readAlternatives fuel inner names [] [] s with
          | some (height, names, ')' :: s) =>
            readAlternatives fuel f names alternatives (.item (height + 1) :: pieces) s
          | _ => none
      else if c = '[' then
        match readSetStart f s with
        | none => none
        | some (_, first, s) =>
          match readSet f (s.length + 1) none first s with
          | none => none
          | some (height, s) =>
            readAlternatives fuel f names alternatives (.item height :: pieces) s
      else if c = '?' ∨ c = '*' ∨ c = '+' then
        match pieces with
        -- Only an item can be repeated, and repeating it adds to its height.
        | .item height :: pieces =>
          readAlternatives fuel f names alternatives (.item (height + 1) :: pieces)
            (if s.head? = some '?' then s.tail else s)
        | _ => none
      else if c = '\\' then
        match readEscape f s with
        | some (escape, s) => if allowsEscape f escape then goOn s else none
        | none => none
      else if c = '\x7b' then none
      else if c = '.' then if f.unicode then goOn s else none
      else if c = '^' ∨ c = '$' then goOn s
      else if f.allowsLiteral then goOn s
      else none

/-- The greatest height of a pattern. -/
def greatestHeight : Nat := 250

/-- Whether a pattern is well formed. -/
def isValid (s : List Char) : Bool :=
  match readAlternatives (s.length + 1) .standard [] [] [] s with
  | some (height, _, []) => height ≤ greatestHeight
  | _ => false

end RuleTrace.LogFilter.Pattern
