import RuleTrace.Text.Numeral

/-!
# `RuleTrace.Yaml.Node`: documents as trees, and what their scalars mean

A document is a tree of scalars, sequences and mappings. A scalar has
no type of its own: what it means is asked for by the reader of the
tree. Any scalar can be read as a text. Only a plain one, that is one
without quotes, can be read as a number, as a truth value or as
nothing; these readings follow the core schema of the format, without
its leniencies (no leading zeros, no separators between digits).
-/

set_option autoImplicit false

namespace RuleTrace.Yaml

/-- A part of a document. -/
inductive Node where
  | scalar (text : List Char) (plain : Bool)
  | sequence (items : List Node)
  | mapping (entries : List (Node × Node))
  deriving Repr, Inhabited

namespace Node

/-- What stands for a part that is left out. -/
def absent : Node := .scalar [] true

/-- Whether the node is a plain scalar of the given text. -/
def isPlain (n : Node) (text : String) : Bool :=
  match n with
  | .scalar cs true => cs = text.toList
  | _ => false

/-- A text: any scalar. -/
def text? : Node → Option String
  | .scalar cs _ => some (String.ofList cs)
  | _ => none

/-- Whether the node says that there is nothing. -/
def isNothing (n : Node) : Bool :=
  n.isPlain "" || n.isPlain "null" || n.isPlain "Null" || n.isPlain "NULL" || n.isPlain "~"

/-- A truth value. -/
def bool? (n : Node) : Option Bool :=
  if n.isPlain "true" || n.isPlain "True" || n.isPlain "TRUE" then some true
  else if n.isPlain "false" || n.isPlain "False" || n.isPlain "FALSE" then some false
  else none

/-- The number that digits write, in the base that their first letters
name. -/
def numeral? (s : List Char) : Option Nat :=
  match s with
  | '0' :: 'x' :: ds => Text.natInBase? 16 ds
  | '0' :: 'o' :: ds => Text.natInBase? 8 ds
  | '0' :: 'b' :: ds => Text.natInBase? 2 ds
  | '0' :: _ :: _ => none
  | ds => Text.nat? ds

/-- The natural number that a numeral with perhaps a sign writes. After
a minus sign only zero is one. -/
def signed? : List Char → Option Nat
  | '-' :: s => (numeral? s).filter (· = 0)
  | s => numeral? (Text.dropPlus s)

/-- A natural number below a bound. -/
def nat? (bound : Nat) : Node → Option Nat
  | .scalar cs true => (signed? cs).filter (· < bound)
  | _ => none

/-- A part that may be left out. -/
def optional? {α : Type} (read : Node → Option α) (n : Node) : Option (Option α) :=
  if n.isNothing then some none else (read n).map some

/-- The entries of a mapping; a part that is left out has none. -/
def entries? : Node → Option (List (Node × Node))
  | .mapping es => some es
  | .scalar [] true => some []
  | _ => none

end Node

end RuleTrace.Yaml
