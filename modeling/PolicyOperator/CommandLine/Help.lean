import PolicyOperator.CommandLine.Basic

/-!
# What the program says of itself

The help texts, the version, and the complaints about a command line.
-/

namespace PolicyOperator.CommandLine

def versionLine : String := "eirenyx 0.1.0"

/-- Lines of text, each ended by a line break. -/
def lines (l : List String) : String := String.join (l.map (· ++ "\n"))

/-- The commands, as the help texts of the program list them. -/
def commandLines : List String := [
  "Usage: eirenyx <COMMAND>",
  "",
  "Commands:",
  "  run   Run the controllers against the current cluster",
  "  crds  Print the CustomResourceDefinitions as YAML",
  "  help  Print this message or the help of the given subcommand(s)",
  ""]

def Topic.text : Topic → String
  | .program false => lines (
    ["Declarative security and chaos-testing tooling for Kubernetes", ""] ++ commandLines ++ [
      "Options:",
      "  -h, --help     Print help (see more with '--help')",
      "  -V, --version  Print version"])
  | .program true => lines (
    ["Eirenyx installs Falco, Trivy and Litmus from Tool objects, renders Policy objects into " ++
      "their native artifacts and keeps a PolicyReport per Policy.", ""] ++ commandLines ++ [
      "Options:",
      "  -h, --help",
      "          Print help (see a summary with '-h')",
      "",
      "  -V, --version",
      "          Print version"])
  | .run => lines [
    "Run the controllers against the current cluster",
    "",
    "Usage: eirenyx run [OPTIONS]",
    "",
    "Options:",
    "  -c, --config <CONFIG>        Operator config file (TOML); defaults apply when absent",
    "      --log-level <LOG_LEVEL>  Log filter, e.g. `info` or `eirenyx_reconciler=debug`. " ++
      "RUST_LOG wins when set [default: info]",
    "      --json-logs              Emit logs as JSON lines",
    "  -h, --help                   Print help"]
  | .crds => lines [
    "Print the CustomResourceDefinitions as YAML",
    "",
    "Usage: eirenyx crds",
    "",
    "Options:",
    "  -h, --help  Print help"]
  | .help => lines [
    "Print this message or the help of the given subcommand(s)",
    "",
    "Usage: eirenyx help [COMMAND]...",
    "",
    "Arguments:",
    "  [COMMAND]...  Print help for the subcommand(s)"]

namespace Stop

/-- The program did what it was asked for. -/
def isAnswer : Stop → Bool
  | .help _ | .version => true
  | _ => false

/-- What is printed. -/
def text : Stop → String
  | .help topic => topic.text
  | .version => lines [versionLine]
  | .missingCommand => (Topic.program false).text
  | .unknownCommand word => lines [s!"error: unrecognized subcommand '{word}'"]
  | .unknownArgument word => lines [s!"error: unexpected argument '{word}' found"]
  | .badValue option => lines [s!"error: a value is required for '{option}' but none was supplied"]
  | .needlessValue option => lines [s!"error: unexpected value in '{option}'; no more were expected"]
  | .repeated option => lines [s!"error: the argument '{option}' cannot be used multiple times"]

end Stop

end PolicyOperator.CommandLine
