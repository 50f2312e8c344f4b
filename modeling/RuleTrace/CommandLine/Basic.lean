import RuleTrace.Text.Split

/-!
# `RuleTrace.CommandLine.Basic`: what the program is asked for

The words of a command line are options, then perhaps a job with words
of its own. An option takes its value from the word it stands in
(`--config=x`, `-cx`, `-c=x`) or from the next one, which must not look
like an option; no option may come twice. After a divider (`--`)
nothing is an option.

Words are read from left to right. The first that is wrong makes the
command line wrong, unless help was asked for before it.
-/

set_option autoImplicit false

namespace RuleTrace

/-- What the options say. -/
structure Options where
  config : Option String
  logLevel : Option String
  deriving DecidableEq, Repr, Inhabited

/-- What is to be done. -/
inductive Job where
  /-- trace until told to stop -/
  | trace
  /-- tell the version -/
  | version
  /-- deliver a recording and end -/
  | replay (file : String)
  deriving DecidableEq, Repr

/-- What help is about. -/
inductive Topic where
  | program
  | version
  | replay
  | help
  deriving DecidableEq, Repr

/-- What a command line asks for. -/
inductive CommandLine where
  | help (topic : Topic)
  | job (options : Options) (job : Job)
  deriving DecidableEq, Repr

namespace CommandLine

/-- A word as it looks. -/
inductive Word where
  /-- two dashes alone -/
  | divider
  /-- two dashes, a name and perhaps a value -/
  | long (name : List Char) (value : Option (List Char))
  /-- a dash and letters -/
  | short (letters : List Char)
  | plain (text : List Char)
  deriving DecidableEq, Repr

/-- How a word looks. A dash alone is plain. -/
def Word.of : List Char → Word
  | ['-', '-'] => .divider
  | '-' :: '-' :: s =>
    match Text.splitOnce '=' s with
    | some (name, value) => .long name (some value)
    | none => .long s none
  | '-' :: c :: s => .short (c :: s)
  | s => .plain s

/-- The options that take a value. -/
inductive OptionName where
  | config
  | logLevel
  deriving DecidableEq, Repr

/-- The option of a long name. -/
def OptionName.ofLong? (name : List Char) : Option OptionName :=
  if name = "config".toList then some .config
  else if name = "log-level".toList then some .logLevel
  else none

/-- Gives an option its value, unless it has one. The name of a file
must not be empty. -/
def set? (o : Options) (name : OptionName) (value : List Char) : Option Options :=
  match name with
  | .config =>
    if o.config.isSome || value.isEmpty then none
    else some { o with config := some (String.ofList value) }
  | .logLevel =>
    if o.logLevel.isSome then none else some { o with logLevel := some (String.ofList value) }

/-- A value in the word of a short option, without the equals sign that
may come before it. -/
def dropEquals : List Char → List Char
  | '=' :: s => s
  | s => s

/-- What the words after a job give. -/
inductive Operands where
  | help
  | given (texts : List (List Char))
  deriving DecidableEq, Repr

/-- Reads the words after a job, of which at most `limit` may be plain,
and none empty; after a divider all are plain. -/
def operands (limit : Nat) : Bool → List (List Char) → List (List Char) → Option Operands
  | _, seen, [] => some (.given seen)
  | literal, seen, s :: rest =>
    match if literal then Word.plain s else Word.of s with
    | .divider => operands limit true seen rest
    | .long name value => if name = "help".toList ∧ value = none then some .help else none
    | .short letters => if letters.head? = some 'h' then some .help else none
    | .plain text =>
      if seen.length < limit ∧ text ≠ [] then operands limit literal (seen ++ [text]) rest
      else none

/-- Reads the words after the job that tells the version. -/
def versionJob (o : Options) (words : List (List Char)) : Option CommandLine :=
  (operands 0 false [] words).map fun
    | .help => .help .version
    | .given _ => .job o .version

/-- Reads the words after the job that delivers a recording. -/
def replayJob (o : Options) (words : List (List Char)) : Option CommandLine :=
  (operands 1 false [] words).bind fun
    | .help => some (.help .replay)
    | .given [file] => some (.job o (.replay (String.ofList file)))
    | .given _ => none

/-- What help is asked for by the words after `help`. -/
def helpJob (words : List (List Char)) : Option CommandLine :=
  if words = [] then some (.help .program)
  else if words = ["version".toList] then some (.help .version)
  else if words = ["replay".toList] then some (.help .replay)
  else if words = ["help".toList] then some (.help .help)
  else none

/-- Reads the job that a plain word names. -/
def jobNamed (o : Options) (name : List Char) (words : List (List Char)) : Option CommandLine :=
  if name = "version".toList then versionJob o words
  else if name = "replay".toList then replayJob o words
  else if name = "help".toList then helpJob words
  else none

/-- Reads a command line; `waiting` is an option that still needs its
value. -/
def parseFrom (waiting : Option OptionName) (o : Options) : List (List Char) → Option CommandLine
  | [] => if waiting.isSome then none else some (.job o .trace)
  | s :: rest =>
    match waiting, Word.of s with
    -- The value of an option is any plain word, and nothing else.
    | some name, .plain value => (set? o name value).bind fun o => parseFrom none o rest
    | some _, _ => none
    | none, .plain name => jobNamed o name rest
    | none, .divider => if rest.isEmpty then some (.job o .trace) else none
    | none, .long name value =>
      if name = "help".toList then if value = none then some (.help .program) else none
      else
        match OptionName.ofLong? name, value with
        | none, _ => none
        | some name, none => parseFrom (some name) o rest
        | some name, some value => (set? o name value).bind fun o => parseFrom none o rest
    | none, .short letters =>
      match letters with
      -- What follows the letter of help is not looked at.
      | 'h' :: _ => some (.help .program)
      | ['c'] => parseFrom (some .config) o rest
      | 'c' :: value => (set? o .config (dropEquals value)).bind fun o => parseFrom none o rest
      | _ => none

/-- What a command line asks for, unless it is wrong. -/
def parse? (words : List String) : Option CommandLine :=
  parseFrom none default (words.map String.toList)

end CommandLine

end RuleTrace
