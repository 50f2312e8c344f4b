import RuleTrace.CommandLine.Basic

/-!
# `RuleTrace.CommandLine.Manual`: the help and version texts

The lines that are shown to whoever asks for help or for the version.
-/

set_option autoImplicit false

namespace RuleTrace

/-- The line that tells the version. -/
def versionLine : String := "nftrace 0.1.0 (commit: unknown, linux/x86_64)"

/-- What the job that tells the version does. -/
def aboutVersion : String := "Print version information and exit"

/-- What the job that delivers a recording does. -/
def aboutReplay : String := "Run recorded trace notifications through the pipeline, drain and exit"

/-- What the job that shows help does. -/
def aboutHelp : String := "Print this message or the help of the given subcommand(s)"

/-- The lines of the help on a topic. -/
def Topic.lines : Topic → List String
  | program =>
    ["nftables rule-evaluation tracer with per-core aggregation and bounded output",
     "",
     "Usage: nftrace [OPTIONS] [COMMAND]",
     "",
     "Commands:",
     "  version  " ++ aboutVersion,
     "  replay   " ++ aboutReplay,
     "  help     " ++ aboutHelp,
     "",
     "Options:",
     "  -c, --config <CONFIG>        Path to the YAML configuration file",
     "      --log-level <LOG_LEVEL>  Logging verbosity level (trace, debug, info, warn, error). "
       ++ "Overrides the config file",
     "  -h, --help                   Print help"]
  | version =>
    [aboutVersion, "", "Usage: nftrace version", "", "Options:", "  -h, --help  Print help"]
  | replay =>
    [aboutReplay,
     "",
     "Usage: nftrace replay <FILE>",
     "",
     "Arguments:",
     "  <FILE>  JSON-lines file of trace notifications",
     "",
     "Options:",
     "  -h, --help  Print help"]
  | help =>
    [aboutHelp,
     "",
     "Usage: nftrace help [COMMAND]...",
     "",
     "Arguments:",
     "  [COMMAND]...  Print help for the subcommand(s)"]

end RuleTrace
