import CommitCharts.CommandLine.Arguments
import CommitCharts.Config.Reader
import CommitCharts.ExitCode
import CommitCharts.Series.Summary
import CommitCharts.Series.Table

/-!
# CommitCharts.CommandLine.Run — running a command

A command builds its settings, reads the store and leaves an exit code, texts on the two output streams and, if it
draws charts, files.
-/

namespace CommitCharts.CommandLine

/-- Why a command had to give up. -/
inductive Failure where
  | config (path : Path) (e : Config.LoadError)
  | rejected (r : Config.Rejection)
  | reading (f : ReadFailure)

/-- The messages of a failure from the outermost to its last cause. -/
def Failure.chain : Failure → List String
  | .config path e => ("loading config " ++ path.text) :: e.chain
  | .rejected r => [r.message]
  | .reading f => f.chain

/-- A cause below the message, its lines indented.  Several causes are numbered. -/
def causeText (number : Option Nat) (cause : String) : String :=
  let (first, more) := match number with
    | some n =>
      let ds := toString n
      (String.join ["".pushn ' ' (5 - ds.length), ds, ": "], "\n       ")
    | none => ("    ", "\n    ")
  String.join ["\n", first, more.intercalate (cause.splitOn "\n")]

def causeTexts (n : Nat) : List String → List String
  | [] => []
  | c :: cs => causeText (some n) c :: causeTexts (n + 1) cs

/-- The message and its causes, one to a line. -/
def Failure.text (f : Failure) : String :=
  match f.chain with
  | [] => ""
  | [message] => message
  | [message, cause] => String.join [message, "\n\nCaused by:", causeText none cause]
  | message :: causes => String.join (message :: "\n\nCaused by:" :: causeTexts 0 causes)

/-- The settings of a file, or all defaults without one. -/
def baseConfig (files : Files) : Option Path → Except Failure Config
  | some path => (Config.load files path).mapError (.config path)
  | none => .ok {}

/-- The settings of the file with what the command line gives, all paths taken from the root. -/
def buildConfig (files : Files) (o : StoreOptions) : Except Failure Config := do
  let c ← baseConfig files o.config
  let c := { c with
    database := o.db.getD c.database
    maxCommits := (o.maxCommits.map UInt32.toUInt64).getD c.maxCommits }
  c.validate.mapError .rejected
  return c.resolve o.repoRoot

/-- The settings for drawing: directories given on the command line are taken from the root as well. -/
def renderConfig (files : Files) (o : StoreOptions) (docsDir suiteDir : Option Path) : Except Failure Config := do
  let c ← buildConfig files o
  return { c with
    docsDir := (docsDir.map o.repoRoot.join).getD c.docsDir
    suiteDir := (suiteDir.map o.repoRoot.join).getD c.suiteDir }

/-- What a command leaves behind. -/
structure Result where
  exit : UInt32
  stdout : String := ""
  stderr : String := ""
  failure : Option Failure := none
  files : Files

def connecting (path : Path) (reason : String) : String :=
  String.join ["Error connecting to database ", path.text, ": ", reason, "\n"]

def renderResult (files : Files) (outcome : RunOutcome) : Result :=
  let exit := ExitCode.ofOutcome outcome
  match outcome with
  | .noStore _ => { exit, files }
  | .unavailable path reason => { exit, stderr := connecting path reason, files }
  | .noData =>
    { exit, stderr := "No data found in database. Performance tests must be run first.\n", files }
  | .insufficientData n =>
    let text := String.join
      ["Need at least 2 commits with complete data to generate charts (found ", toString n, ").\n"]
    { exit, stderr := text, files }
  | .completed report =>
    let text := String.join [toString report.rendered, " of ", toString report.charts.length, " charts updated\n"]
    { exit, stdout := text, files }

/-- Draw the charts. -/
def drawCharts (files : Files) (o : StoreOptions) (docsDir suiteDir : Option Path) : Result :=
  match renderConfig files o docsDir suiteDir with
  | .error e => { exit := ExitCode.failure, failure := some e, files }
  | .ok c =>
    match generateCharts files c .reference with
    | (files, .error e) => { exit := ExitCode.failure, failure := some (.reading e), files }
    | (files, .ok outcome) => renderResult files outcome

def showResult (files : Files) (format : Format) : Reading → Result
  | .noStore path =>
    { exit := ExitCode.success, stderr := String.join ["No database at ", path.text, "\n"], files }
  | .unavailable path reason => { exit := ExitCode.failure, stderr := connecting path reason, files }
  | .noData => { exit := ExitCode.failure, stderr := "No data found in database.\n", files }
  | .loaded records series =>
    if series.isEmpty then
      let text := String.join
        ["No commits with complete results (", toString series.frames.size, " commits seen).\n"]
      { exit := ExitCode.failure, stderr := text, files }
    else
      let text := match format with
        | .text => series.table .reference
        | .json => (Summary.ofSeries series .reference records).prettyText ++ "\n"
      { exit := ExitCode.success, stdout := text, files }

/-- Print the commits that would be charted. -/
def printSeries (files : Files) (o : StoreOptions) (format : Format) : Result :=
  match buildConfig files o with
  | .error e => { exit := ExitCode.failure, failure := some e, files }
  | .ok c =>
    let after := Store.traces files c.database
    match readSeries files c .reference with
    | .error e => { exit := ExitCode.failure, failure := some (.reading e), files := after }
    | .ok reading => showResult after format reading

def Command.run (files : Files) : Command → Result
  | .render o docsDir suiteDir => drawCharts files o docsDir suiteDir
  | .show o format => printSeries files o format

def Command.storeOptions : Command → StoreOptions
  | .render o .. => o
  | .show o _ => o

/-- The text that answers the question for the version. -/
def versionText : String := "perftrend 0.1.0\n"

end CommitCharts.CommandLine
