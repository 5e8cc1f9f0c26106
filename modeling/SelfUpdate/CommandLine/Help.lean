import SelfUpdate.CommandLine.Arguments
import SelfUpdate.Product

/-!
# Pages of help

A page of help says what a command does, how it is used, and which commands or
options go with it.
-/

namespace SelfUpdate.CommandLine

def programPage : List String :=
  ["Command line client for Coder - self-update",
    "",
    "Usage: coder [OPTIONS] <COMMAND>",
    "",
    "Commands:",
    "  update  Update coder binary",
    "  help    Print this message or the help of the given subcommand(s)",
    "",
    "Options:",
    "  -v, --verbose...  Increase verbosity (-v, -vv, -vvv)",
    "  -q, --quiet       Suppress output",
    "  -h, --help        Print help",
    "  -V, --version     Print version"]

def updatePage : List String :=
  ["Update coder binary",
    "",
    "Usage: coder update [OPTIONS]",
    "",
    "Options:",
    "      --force             Do not prompt for confirmation",
    "  -v, --verbose...        Increase verbosity (-v, -vv, -vvv)",
    "  -q, --quiet             Suppress output",
    "      --version <SEMVER>  Explicit version to update to (default: latest release)",
    "  -h, --help              Print help"]

def helpPage : List String :=
  ["Print this message or the help of the given subcommand(s)",
    "",
    "Usage: coder help [COMMAND]...",
    "",
    "Arguments:",
    "  [COMMAND]...  Print help for the subcommand(s)"]

def Page.lines : Page → List String
  | .program => programPage
  | .update => updatePage
  | .help => helpPage

namespace Deviation

/-- What the arguments were found to lack or to have too much, for those who did not ask
for anything that can be shown. -/
def complaint : Deviation → Option String
  | .help _ | .programVersion => none
  | .nothingGiven => some "a command is required"
  | .noCommand => some "a command is required besides the options"
  | .unknownCommand word => some ("unrecognized command '" ++ word ++ "'")
  | .unknownArgument argument => some ("unexpected argument '" ++ argument ++ "'")
  | .missingValue => some "an option lacks its value"
  | .unexpectedValue => some "an option that takes no value was given one"
  | .repeated => some "an option was repeated that can be given only once"

/-- What is shown to those who asked for it. -/
def answer : Deviation → List String
  | .help page => page.lines
  | .programVersion => [binaryName ++ " " ++ SelfUpdate.programVersion]
  | _ => []

/-- The exit code: whoever asked for something got it, and all else is wrong usage. -/
def exitCode (deviation : Deviation) : UInt8 :=
  if deviation.complaint.isSome then 2 else 0

end Deviation

end SelfUpdate.CommandLine
