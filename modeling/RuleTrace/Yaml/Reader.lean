import RuleTrace.Yaml.Node
import RuleTrace.Yaml.Token

/-!
# `RuleTrace.Yaml.Reader`: a document from its text

Builds the tree of a document from its tokens: sequences and mappings
in both styles, and scalars. What is left out where a value could stand
is read as an absent node. There must be one document at most.

The readers are given more rounds than there are tokens, so they never
run out of them.
-/

set_option autoImplicit false

namespace RuleTrace.Yaml

/-- A node and the tokens after it. -/
abbrev Read := Option (Node × List Token)

/-- Whether the next token is one of some. -/
def nextIs (ts : List Token) (some : List Token) : Bool := ts.head?.any some.contains

mutual

/-- Reads a node. Blocks are read only where they are allowed, and a
block of items without a start of its own only as a part of an
entry. -/
def readNode : Nat → Bool → Bool → List Token → Read
  | 0, _, _, _ => none
  | n + 1, block, inEntry, ts =>
    match ts with
    | .scalar text plain :: ts => some (.scalar text plain, ts)
    | .bracketOpen :: ts => readFlowItems n true [] ts
    | .braceOpen :: ts => readFlowEntries n true [] ts
    | .itemsStart :: ts => if block then readItems n [] ts else none
    | .entriesStart :: ts => if block then readEntries n [] ts else none
    | .dash :: _ => if inEntry then readLooseItems n [] ts else none
    | _ => none

/-- Reads items up to the closing bracket. A key among them is an item
with one entry. -/
def readFlowItems : Nat → Bool → List Node → List Token → Read
  | 0, _, _, _ => none
  | n + 1, first, items, ts =>
    if ts.head? = some .bracketClose then some (.sequence items, ts.tail)
    else if !first && ts.head? ≠ some .comma then none
    else
      match if first then ts else ts.tail with
      | .bracketClose :: ts => some (.sequence items, ts)
      | .key :: ts => do
        let (key, ts) ←
          if nextIs ts [.value, .comma, .bracketClose] then some (.absent, ts.tail)
          else readNode n false false ts
        let (value, ts) ← readFlowValue n .bracketClose ts
        readFlowItems n false (items ++ [.mapping [(key, value)]]) ts
      | ts => do
        let (item, ts) ← readNode n false false ts
        readFlowItems n false (items ++ [item]) ts

/-- Reads entries up to the closing brace. -/
def readFlowEntries : Nat → Bool → List (Node × Node) → List Token → Read
  | 0, _, _, _ => none
  | n + 1, first, entries, ts =>
    if ts.head? = some .braceClose then some (.mapping entries, ts.tail)
    else if !first && ts.head? ≠ some .comma then none
    else
      match if first then ts else ts.tail with
      | .braceClose :: ts => some (.mapping entries, ts)
      | .key :: ts => do
        let (key, ts) ←
          if nextIs ts [.value, .comma, .braceClose] then some (.absent, ts)
          else readNode n false false ts
        let (value, ts) ← readFlowValue n .braceClose ts
        readFlowEntries n false (entries ++ [(key, value)]) ts
      | ts => do
        let (key, ts) ← readNode n false false ts
        readFlowEntries n false (entries ++ [(key, .absent)]) ts

/-- Reads the value of a key inside brackets. -/
def readFlowValue : Nat → Token → List Token → Read
  | 0, _, _ => none
  | n + 1, close, ts =>
    match ts with
    | .value :: ts =>
      if nextIs ts [.comma, close] then some (.absent, ts) else readNode n false false ts
    | ts => some (.absent, ts)

/-- Reads the items of a block. -/
def readItems : Nat → List Node → List Token → Read
  | 0, _, _ => none
  | n + 1, items, ts =>
    match ts with
    | .dash :: ts => do
      let (item, ts) ←
        if nextIs ts [.dash, .blockEnd] then some (.absent, ts) else readNode n true false ts
      readItems n (items ++ [item]) ts
    | .blockEnd :: ts => some (.sequence items, ts)
    | _ => none

/-- Reads items that stand in the column of the key that they belong
to. -/
def readLooseItems : Nat → List Node → List Token → Read
  | 0, _, _ => none
  | n + 1, items, ts =>
    match ts with
    | .dash :: ts => do
      let (item, ts) ←
        if nextIs ts [.dash, .key, .value, .blockEnd] then some (.absent, ts)
        else readNode n true false ts
      readLooseItems n (items ++ [item]) ts
    | ts => some (.sequence items, ts)

/-- Reads the entries of a block. -/
def readEntries : Nat → List (Node × Node) → List Token → Read
  | 0, _, _ => none
  | n + 1, entries, ts =>
    match ts with
    | .key :: ts => do
      let (key, ts) ← readPart n ts
      let (value, ts) ←
        match ts with
        | .value :: ts => readPart n ts
        | ts => some (.absent, ts)
      readEntries n (entries ++ [(key, value)]) ts
    | .blockEnd :: ts => some (.mapping entries, ts)
    | _ => none

/-- Reads the key or the value of an entry of a block. -/
def readPart : Nat → List Token → Read
  | 0, _ => none
  | n + 1, ts =>
    if nextIs ts [.key, .value, .blockEnd] then some (.absent, ts) else readNode n true true ts

end

/-- Reads the tokens of a document after its start, and whatever ends
it. -/
def readContent (ts : List Token) : Option Node := do
  let (node, ts) ← readNode (4 * ts.length + 4) true false ts
  if ts.all (· = .documentEnd) then some node else none

/-- Reads the tokens of a text. A text without a document, or with an
empty one, reads as an absent node. -/
def readTokens : List Token → Option Node
  | [] => some .absent
  | .documentStart :: ts => if ts.all (· = .documentEnd) then some .absent else readContent ts
  | ts => readContent ts

/-- Whether a document may hold this character. -/
def isAllowed (c : Char) : Bool :=
  let n := c.toNat
  n = 0x09 || n = 0x0A || n = 0x0D || (0x20 ≤ n && n ≤ 0x7E) || n = 0x85
    || (0xA0 ≤ n && n ≤ 0xD7FF) || (0xE000 ≤ n && n ≤ 0xFFFD) || 0x10000 ≤ n

/-- Reads a document. -/
def readDocument (text : List Char) : Option Node :=
  if text.all isAllowed then (Token.scan text).bind readTokens else none

end RuleTrace.Yaml
