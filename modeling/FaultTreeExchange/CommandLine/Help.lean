import FaultTreeExchange.CommandLine.Request

/-!
# Descriptions of the program

The texts that tell how the program and its commands are used.
-/

namespace FaultTreeExchange.CommandLine

def versionText : String := "aralia 0.1.0\n"

/-- The description of the options that every command has. -/
def commonOptions : List String :=
  ["      --output <OUTPUT>  Output format (text or json) [default: text] " ++
      "[possible values: text, json]",
    "      --quiet            Suppress non-essential output",
    "      --verbose          Log every pass at debug level on stderr (overrides RUST_LOG)"]

def helpLines : Option Subcommand → List String
  | none =>
    [about, "", "Usage: aralia [OPTIONS] <COMMAND>", "", "Commands:",
      "  translate  Translate Aralia files to MEF XML",
      "  check      Validate Aralia files and print a summary of each tree",
      "  help       Print this message or the help of the given subcommand(s)", "", "Options:"] ++
    commonOptions ++
    ["  -h, --help             Print help", "  -V, --version          Print version"]
  | some .translate =>
    ["Translate Aralia files to MEF XML", "",
      "Usage: aralia translate [OPTIONS] <FILES>...", "", "Arguments:",
      "  <FILES>...  Aralia fault-tree files", "", "Options:",
      "      --multi-top        Allow more than one top gate"] ++
    commonOptions ++
    ["      --out-dir <OUT_DIR>  Directory for the generated <stem>.xml files " ++
        "(default: current directory)",
      "      --stdout           Write the XML to stdout instead of files",
      "      --default-probability <DEFAULT_PROBABILITY>  Probability given to events that are " ++
        "referenced but never declared",
      "  -h, --help             Print help"]
  | some .check =>
    ["Validate Aralia files and print a summary of each tree", "",
      "Usage: aralia check [OPTIONS] <FILES>...", "", "Arguments:",
      "  <FILES>...  Aralia fault-tree files", "", "Options:",
      "      --multi-top        Allow more than one top gate"] ++
    commonOptions ++ ["  -h, --help             Print help"]
  | some .help =>
    ["Print this message or the help of the given subcommand(s)", "",
      "Usage: aralia help [COMMAND]...", "", "Arguments:",
      "  [COMMAND]...  Print help for the subcommand(s)"]

def helpText (topic : Option Subcommand) : String :=
  String.join ((helpLines topic).map fun line => line ++ "\n")

end FaultTreeExchange.CommandLine
