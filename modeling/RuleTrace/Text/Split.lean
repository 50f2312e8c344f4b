/-!
# `RuleTrace.Text.Split`: cutting a text at a character

`splitOn` cuts at every occurrence and so has one part more than there
are occurrences; `splitOnce` cuts at the first one, if there is one.
-/

set_option autoImplicit false

namespace RuleTrace.Text

/-- The parts between the occurrences of `sep`. -/
def splitOn (sep : Char) : List Char → List (List Char)
  | [] => [[]]
  | c :: cs =>
    match splitOn sep cs with
    | [] => [[c]]
    | part :: parts => if c = sep then [] :: part :: parts else (c :: part) :: parts

/-- The texts before and after the first `sep`. -/
def splitOnce (sep : Char) : List Char → Option (List Char × List Char)
  | [] => none
  | c :: cs =>
    if c = sep then some ([], cs)
    else (splitOnce sep cs).map fun (before, after) => (c :: before, after)

end RuleTrace.Text
