import CommitCharts.CommandLine.Invocation

/-!
# CommitCharts.CommandLine.Usage — help and complaints

What is printed when a command line is answered without running a command.
-/

namespace CommitCharts.CommandLine

/-- The text that answers the question for help. -/
def helpText : String := "\n".intercalate
  ["Render per-commit performance trend charts from the results database",
    "",
    "Usage: perftrend [OPTIONS] <COMMAND>",
    "",
    "Commands:",
    "  render  Regenerate the overview and per-test trend charts",
    "  show    Print the commits that would be charted",
    "  help    Print this message",
    "",
    "Options:",
    "  -v, --verbose                  Log at debug level",
    "  -h, --help                     Print help",
    "  -V, --version                  Print version",
    "",
    "Options of both commands:",
    "      --config <CONFIG>            Optional YAML config; flags override its values",
    "      --repo-root <REPO_ROOT>      Relative paths resolve against this directory [default: .]",
    "      --db <DB>                    Path to the performance database [env: PERFTREND_DB]",
    "      --max-commits <MAX_COMMITS>  Maximum number of complete commits to chart",
    "",
    "Options of render:",
    "      --docs-dir <DOCS_DIR>        Output directory for documentation charts",
    "      --suite-dir <SUITE_DIR>      Output directory for the test suite's charts",
    "",
    "Options of show:",
    "      --format <FORMAT>            text or json [default: text]",
    ""]

/-- What was wrong with a command line; nothing if it asked for what it gets. -/
def Stop.complaint? : Stop → Option String
  | .help | .version | .idle => none
  | .missingCommand => some "a command is required"
  | .unknownCommand => some "unrecognized command"
  | .unknownArgument => some "unexpected argument"
  | .repeatedArgument => some "an argument was given more than once"
  | .surplusValue => some "a value was given to a flag that takes none"
  | .badValue => some "a value is missing or not among the possible ones"
  | .badNumber => some "a number is malformed or out of range"

end CommitCharts.CommandLine
