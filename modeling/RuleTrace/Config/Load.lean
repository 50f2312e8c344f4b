import RuleTrace.Config.Basic
import RuleTrace.Span.Phrase
import RuleTrace.Text.Utf8
import RuleTrace.Yaml.Reader

/-!
# `RuleTrace.Config.Load`: the configuration from a file

A configuration file is a document with named sections. What it does
not mention keeps its standard value; what is not known is ignored; a
name that is known must not occur twice. A file that can be read as a
configuration must also keep the rules of `Config.validate`.
-/

set_option autoImplicit false

namespace RuleTrace.Config

open Yaml (Node)
open Text (Flaw orMalformed)

/-- A name in a configuration file and what its value changes. -/
structure Setting where
  name : String
  put : Config → Node → Except Flaw Config

/-- A setting whose value is read by `read`. -/
def Setting.of {α : Type} (name : String) (read : Node → Except Flaw α)
    (set : Config → α → Config) : Setting :=
  ⟨name, fun c n => (read n).map (set c)⟩

/-- Puts entries into a configuration; `seen` holds the names met. -/
def putEntries (settings : List Setting) : List String → Config → List (Node × Node) →
    Except Flaw Config
  | _, c, [] => .ok c
  | seen, c, (key, value) :: rest => do
    let name ← orMalformed key.text?
    match settings.find? fun s => s.name = name with
    | none => putEntries settings seen c rest
    | some s =>
      if name ∈ seen then .error .malformed
      else putEntries settings (name :: seen) (← s.put c value) rest

/-- Puts the entries of a section, which is a mapping of settings, into
a configuration. -/
def putSection (settings : List Setting) (c : Config) (n : Node) : Except Flaw Config := do
  putEntries settings [] c (← orMalformed n.entries?)

/-! ### Values -/

def readText (n : Node) : Except Flaw String := orMalformed n.text?

def readPath (n : Node) : Except Flaw (Option String) := orMalformed (n.optional? Node.text?)

def readBool (n : Node) : Except Flaw Bool := orMalformed n.bool?

/-- A length of time. -/
def readSpan (n : Node) : Except Flaw Span := do Span.ofPhrase (← readText n).toList

def readFormat (n : Node) : Except Flaw OutputFormat := do
  let name ← readText n
  orMalformed ([OutputFormat.text, .json].find? fun f => f.name = name)

def readWord64 (n : Node) : Except Flaw Nat := orMalformed (n.nat? UInt64.size)

def readWord32 (n : Node) : Except Flaw Nat := orMalformed (n.nat? UInt32.size)

def readCount (n : Node) : Except Flaw (Option Nat) :=
  orMalformed (n.optional? fun n => n.nat? UInt64.size)

/-! ### Settings -/

def samplingSettings : List Setting :=
  [.of "rate" readWord64 fun c x => { c with rate := .ofNat x }]

def aggregationSettings : List Setting :=
  [.of "interval" readSpan fun c x => { c with interval := x },
   .of "store_capacity" readWord64 fun c x => { c with storeCapacity := x },
   .of "queue_capacity" readWord64 fun c x => { c with queueCapacity := x },
   .of "flush_batch" readWord64 fun c x => { c with flushBatch := x }]

def outputSettings : List Setting :=
  [.of "direct_capacity" readWord64 fun c x => { c with directCapacity := x },
   .of "lane_capacity" readWord64 fun c x => { c with laneCapacity := x },
   .of "format" readFormat fun c x => { c with format := x },
   .of "dedupe" readBool fun c x => { c with dedupe := x },
   .of "path" readPath fun c x => { c with outputPath := x }]

def lockSettings : List Setting :=
  [.of "retries" readWord32 fun c x => { c with attempts := x }]

def sourceSettings : List Setting :=
  [.of "replay_path" readPath fun c x => { c with replayPath := x },
   .of "pace" readSpan fun c x => { c with pace := x }]

def healthSettings : List Setting :=
  [.of "addr" readText fun c x => { c with healthAddress := x }]

/-- All settings. -/
def settings : List Setting :=
  [.of "log_level" readText fun c x => { c with logLevel := x },
   ⟨"sampling", putSection samplingSettings⟩,
   ⟨"aggregation", putSection aggregationSettings⟩,
   ⟨"output", putSection outputSettings⟩,
   ⟨"lock", putSection lockSettings⟩,
   .of "cpus" readCount fun c x => { c with cpus := x },
   ⟨"source", putSection sourceSettings⟩,
   .of "stats_interval" readSpan fun c x => { c with statsInterval := x },
   ⟨"health", putSection healthSettings⟩]

/-- Why a file gives no configuration. -/
inductive LoadError where
  /-- it is missing or no text -/
  | unreadable
  /-- its text is no configuration -/
  | malformed
  /-- reading its text is an accident -/
  | broken
  /-- it breaks a rule -/
  | invalid (cause : ConfigError)
  deriving DecidableEq, Repr

/-- The wording of the error, for a file of the given name. -/
def LoadError.message (name : String) : LoadError → String
  | unreadable => "reading config file " ++ name
  | malformed | broken => "parsing config file " ++ name
  | invalid cause => cause.message

/-- What is wrong with a configuration whose text has a flaw. -/
def LoadError.ofFlaw : Flaw → LoadError
  | .malformed => malformed
  | .broken => broken

/-- The configuration that a text writes, whether or not it keeps the
rules. -/
def ofText (text : List Char) : Except Flaw Config := do
  putSection settings standard (← orMalformed (Yaml.readDocument text))

/-- The configuration of a file, of which `none` stands for one that is
missing. -/
def load (file : Option (List UInt8)) : Except LoadError Config :=
  match file.bind Text.Utf8.decode? with
  | none => .error .unreadable
  | some text => do
    let c ← (ofText text).mapError LoadError.ofFlaw
    (c.validate).mapError LoadError.invalid
    return c

end RuleTrace.Config
