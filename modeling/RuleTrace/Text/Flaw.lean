/-!
# `RuleTrace.Text.Flaw`: what is wrong with a text

A text that does not follow its format is malformed, and whoever reads
it is told so. A few texts are worse: reading them goes wrong in a way
that nobody is told of, and whoever reads them must give up at once.
-/

set_option autoImplicit false

namespace RuleTrace.Text

/-- What is wrong with a text. -/
inductive Flaw where
  | malformed
  /-- reading it is an accident -/
  | broken
  deriving DecidableEq, Repr

/-- What was read, unless the text is malformed. -/
def orMalformed {α : Type} : Option α → Except Flaw α
  | some x => .ok x
  | none => .error .malformed

end RuleTrace.Text
