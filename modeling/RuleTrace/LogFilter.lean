import RuleTrace.LogFilter.Pattern
import RuleTrace.Text.Flaw
import RuleTrace.Text.Split

/-!
# `RuleTrace.LogFilter`: which filters for the log are well formed

A filter is a list of directives between commas; empty ones are
skipped. A directive names a level, or a target and perhaps a span with
fields in brackets, and perhaps a level after an equals sign:
`info`, `pipeline=debug`, `agent[flush{core}]=trace`. A name alone is
always right, since a name that is no level is a target. A field may
have a value, which is a number or a pattern.

Blanks around a directive are passed over when its parts are found, but
the parts are cut out of the text with its blanks, at octets counted
without them. So after a blank the parts are shifted: the level of
` a=info` is `=info`, which is none. After a blank of several octets a
cut can go through a character, and then the directive is *broken*.
-/

set_option autoImplicit false

namespace RuleTrace.LogFilter

open Text (Flaw)

/-- The number of octets of a text. -/
def size (s : List Char) : Nat := s.foldl (fun n c => n + c.utf8Size) 0

/-- The first octets of a text, as many as wanted. -/
def takeOctets (count : Nat) : List Char → Except Flaw (List Char)
  | [] => .ok []
  | c :: s =>
    if count = 0 then .ok []
    else if c.utf8Size ≤ count then (c :: ·) <$> takeOctets (count - c.utf8Size) s
    else .error .broken

/-- A text without its first octets, as many as wanted. -/
def dropOctets (count : Nat) : List Char → Except Flaw (List Char)
  | [] => .ok []
  | c :: s =>
    if count = 0 then .ok (c :: s)
    else if c.utf8Size ≤ count then dropOctets (count - c.utf8Size) s
    else .error .broken

/-- The octets of a text from one count to another. -/
def cut (s : List Char) (start stop : Nat) : Except Flaw (List Char) := do
  takeOctets (stop - start) (← dropOctets start s)

/-- Accepts what is right. -/
def require (ok : Bool) : Except Flaw Unit := if ok then .ok () else .error .malformed

/-! ### Levels and values -/

/-- The names of the levels; they are also numbered from zero. -/
def levelNames : List (List Char) :=
  ["off", "error", "warn", "info", "debug", "trace"].map String.toList

/-- Whether a text is a level, by number or by name in any case. -/
def isLevel (s : List Char) : Bool :=
  (Text.nat? (Text.dropPlus s)).any (· < levelNames.length)
    || levelNames.contains (s.map Char.toLower)

/-- Whether a text that follows an equals sign is right: a level or
nothing. -/
def isAssigned (s : List Char) : Bool := s.isEmpty || isLevel s

/-- The text without a sign at its start. -/
def dropSign : List Char → List Char
  | '-' :: s => s
  | s => Text.dropPlus s

/-- Whether an exponent stands here, or nothing. -/
def isExponent : List Char → Bool
  | [] => true
  | c :: s => (c = 'e' || c = 'E') && (Text.nat? (dropSign s)).isSome

/-- Whether a text is a number: digits with perhaps a point among them
and an exponent after them, or the name of a number that has none. -/
def isNumber (s : List Char) : Bool :=
  let s := dropSign s
  let whole := s.takeWhile Char.isDigit
  let after := s.dropWhile Char.isDigit
  let fraction := if after.head? = some '.' then after.tail.takeWhile Char.isDigit else []
  let after := if after.head? = some '.' then after.tail.dropWhile Char.isDigit else after
  (!(whole.isEmpty && fraction.isEmpty) && isExponent after)
    || (["inf", "infinity", "nan"].map String.toList).contains (s.map Char.toLower)

/-- Whether the value of a field is right. -/
def isValue (s : List Char) : Bool := isNumber s || Pattern.isValid s

/-- Whether a field is right: it has a value that is, or none. What
follows a second equals sign does not matter. -/
def isField (s : List Char) : Bool :=
  match Text.splitOn '=' s with
  | _ :: value :: _ => isValue value
  | _ => !s.isEmpty

/-! ### Directives -/

/-- Whether a character may begin a name. -/
def beginsName (c : Char) : Bool :=
  c == '-' || c == ':' || c == '_' || Text.isAlphanumeric c

/-- Checks the level that begins at an octet. -/
def checkLevel (s : List Char) (start : Nat) : Except Flaw Unit := do
  require (isAssigned (← cut s start (size s)))

/-- Checks what follows a closed bracket at an octet. -/
def afterSpan (s : List Char) (i : Nat) : List Char → Except Flaw Unit
  | [] => .ok ()
  | '=' :: _ => checkLevel s (i + 1)
  | _ => .error .malformed

/-- Checks what follows the fields of a span. -/
def afterFields (s : List Char) (i : Nat) : List Char → Except Flaw Unit
  | ']' :: rest => afterSpan s (i + 1) rest
  | _ => .error .malformed

/-- Checks what follows the brace before a field. -/
def inField (s : List Char) (start i : Nat) : List Char → Except Flaw Unit
  | [] => .error .malformed
  | c :: rest => do
    if c = '\x7d' then
      require (isField (← cut s start i))
      afterFields s (i + 1) rest
    else inField s start (i + c.utf8Size) rest

/-- Checks what follows an opened bracket. -/
def inSpan (s : List Char) (start i : Nat) : List Char → Except Flaw Unit
  | [] => .error .malformed
  | c :: rest => do
    if c = ']' then
      discard (cut s start i)
      afterSpan s (i + 1) rest
    else if c = '\x7b' then
      discard (cut s start i)
      inField s (i + 1) (i + 1) rest
    else inSpan s start (i + c.utf8Size) rest

/-- Checks what follows a part of a name. -/
def inName (s : List Char) (i : Nat) : List Char → Except Flaw Unit
  | [] => .ok ()
  | c :: rest => do
    if c = '=' then
      discard (cut s 0 i)
      checkLevel s (i + 1)
    else if c = '[' then
      discard (cut s 0 i)
      inSpan s (i + 1) (i + 1) rest
    else inName s (i + c.utf8Size) rest

/-- Checks a directive. -/
def checkDirective (s : List Char) : Except Flaw Unit :=
  match Text.trim s with
  | [] => .error .malformed
  | c :: rest =>
    if c = '[' then inSpan s 1 1 rest
    else if beginsName c then inName s c.utf8Size rest
    else .error .malformed

/-- Checks a filter; its first flaw counts. -/
def check (s : List Char) : Except Flaw Unit :=
  ((Text.splitOn ',' s).filter (!·.isEmpty)).forM checkDirective

end RuleTrace.LogFilter
