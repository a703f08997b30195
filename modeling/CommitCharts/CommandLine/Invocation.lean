import CommitCharts.Path

/-!
# CommitCharts.CommandLine.Invocation — what a command line asks for

There are two commands: one draws the charts, the other prints the commits that would be charted.
-/

namespace CommitCharts.CommandLine

/-- Where the database lives and how much history to read.  What is given here goes before the settings file. -/
structure StoreOptions where
  config : Option Path := none
  /-- The directory that relative paths start from. -/
  repoRoot : Path := ⟨"."⟩
  db : Option Path := none
  maxCommits : Option UInt32 := none
  deriving DecidableEq, Repr

inductive Format where
  | text
  | json
  deriving DecidableEq, Repr

def Format.ofName? : String → Option Format
  | "text" => some .text
  | "json" => some .json
  | _ => none

inductive Command where
  | render (store : StoreOptions) (docsDir suiteDir : Option Path)
  | show (store : StoreOptions) (format : Format)
  deriving DecidableEq, Repr

structure Invocation where
  verbose : Bool
  command : Command
  deriving DecidableEq, Repr

/-- Why a command line is answered without running a command. -/
inductive Stop where
  | help
  | version
  /-- Nothing was asked for. -/
  | idle
  | missingCommand
  | unknownCommand
  | unknownArgument
  | repeatedArgument
  /-- A flag was given a value. -/
  | surplusValue
  /-- A value is missing, empty or none of the possible ones. -/
  | badValue
  /-- A number is malformed or out of range. -/
  | badNumber
  deriving DecidableEq, Repr

/-- Help and version were asked for; anything else is a mistake. -/
def Stop.exitCode : Stop → UInt32
  | .help | .version => 0
  | _ => 2

end CommitCharts.CommandLine
