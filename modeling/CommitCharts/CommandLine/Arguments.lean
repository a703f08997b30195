import CommitCharts.CommandLine.Invocation
import CommitCharts.Text.Radix

/-!
# CommitCharts.CommandLine.Arguments — reading a command line

Arguments are read from left to right.  An option takes its value from behind an equals sign or from the next
argument, which must not look like an option.  A value is looked at only when the next flag or option, or the end
of the line, shows that it is complete; an unknown argument is reported before that.
-/

namespace CommitCharts.CommandLine

inductive Verb where
  | render
  | show
  deriving DecidableEq, Repr

def Verb.ofName? : String → Option Verb
  | "render" => some .render
  | "show" => some .show
  | _ => none

/-- Names that stand for a command on the first level. -/
def isCommandName (s : String) : Bool := s == "help" || (Verb.ofName? s).isSome

inductive Flag where
  | verbose
  | help
  | version
  deriving DecidableEq, Repr

/-- The version can be asked for only before a command. -/
def Flag.ofName? (verb : Option Verb) : String → Option Flag
  | "verbose" => some .verbose
  | "help" => some .help
  | "version" => if verb.isNone then some .version else none
  | _ => none

def Flag.ofLetter? (verb : Option Verb) : Char → Option Flag
  | 'v' => some .verbose
  | 'h' => some .help
  | 'V' => if verb.isNone then some .version else none
  | _ => none

inductive OptionName where
  | config
  | repoRoot
  | db
  | maxCommits
  | docsDir
  | suiteDir
  | format
  deriving DecidableEq, Repr

def OptionName.ofName? (verb : Verb) : String → Option OptionName
  | "config" => some .config
  | "repo-root" => some .repoRoot
  | "db" => some .db
  | "max-commits" => some .maxCommits
  | "docs-dir" => if verb = .render then some .docsDir else none
  | "suite-dir" => if verb = .render then some .suiteDir else none
  | "format" => if verb = .show then some .format else none
  | _ => none

/-- How an argument reads by its hyphens. -/
inductive Shape where
  /-- Two hyphens alone: only plain arguments follow. -/
  | separator
  | long (name : String) (value : Option String)
  | short (letters : List Char)
  | plain

/-- The text before the first equals sign and, if there is one, the text behind it. -/
def splitValue (cs : List Char) : String × Option String :=
  let name := String.ofList (cs.takeWhile (· ≠ '='))
  match cs.dropWhile (· ≠ '=') with
  | _ :: value => (name, some (String.ofList value))
  | [] => (name, none)

def Shape.ofArgument (a : String) : Shape :=
  match a.toList with
  | ['-', '-'] => .separator
  | '-' :: '-' :: cs => .long (splitValue cs).1 (splitValue cs).2
  | '-' :: c :: cs => .short (c :: cs)
  | _ => .plain

/-- The values of options that were given. -/
structure Given where
  verbose : Bool := false
  config : Option Path := none
  repoRoot : Option Path := none
  db : Option Path := none
  maxCommits : Option UInt32 := none
  docsDir : Option Path := none
  suiteDir : Option Path := none
  format : Option Format := none
  /-- The last option, as long as its value is not complete. -/
  pending : Option (OptionName × Option String) := none
  deriving DecidableEq, Repr

/-! ### Values -/

def readPath (s : String) : Except Stop Path := if s.isEmpty then .error .badValue else .ok ⟨s⟩

/-- A positive number of 32 bits, perhaps behind a plus sign. -/
def readCount (s : String) : Except Stop UInt32 :=
  let ds := match s.toList with
    | '+' :: cs => cs
    | cs => cs
  match Text.number? 10 ds with
  | some n => if 0 < n ∧ n < UInt32.size then .ok n.toUInt32 else .error .badNumber
  | none => .error .badNumber

def readFormat (s : String) : Except Stop Format :=
  match Format.ofName? s with
  | some f => .ok f
  | none => .error .badValue

namespace Given

variable (g : Given)

def has : OptionName → Bool
  | .config => g.config.isSome
  | .repoRoot => g.repoRoot.isSome
  | .db => g.db.isSome
  | .maxCommits => g.maxCommits.isSome
  | .docsDir => g.docsDir.isSome
  | .suiteDir => g.suiteDir.isSome
  | .format => g.format.isSome

/-- Give an option its value, which it must not have yet. -/
def set (o : OptionName) (v : String) : Except Stop Given := do
  if g.has o then throw .repeatedArgument
  match o with
  | .config => return { g with config := ← readPath v }
  | .repoRoot => return { g with repoRoot := ← readPath v }
  | .db => return { g with db := ← readPath v }
  | .maxCommits => return { g with maxCommits := ← readCount v }
  | .docsDir => return { g with docsDir := ← readPath v }
  | .suiteDir => return { g with suiteDir := ← readPath v }
  | .format => return { g with format := ← readFormat v }

/-- The value of the pending option is complete. -/
def settle : Except Stop Given :=
  match g.pending with
  | none => .ok g
  | some (_, none) => .error .badValue
  | some (o, some v) => { g with pending := none }.set o v

def apply (f : Flag) : Except Stop Given := do
  let g ← g.settle
  match f with
  | .verbose => if g.verbose then throw .repeatedArgument else return { g with verbose := true }
  | .help => throw .help
  | .version => throw .version

/-- Letters behind one hyphen. -/
def applyLetters (verb : Option Verb) (g : Given) : List Char → Except Stop Given
  | [] => .ok g
  | c :: cs =>
    match Flag.ofLetter? verb c with
    | some f => do applyLetters verb (← g.apply f) cs
    | none => .error .unknownArgument

def applyLong (verb : Option Verb) (name : String) (value : Option String) : Except Stop Given :=
  match Flag.ofName? verb name with
  | some f => if value.isSome then .error .surplusValue else g.apply f
  | none => .error .unknownArgument

/-- Begin an option, with its value if that is attached. -/
def begin (o : OptionName) (value : Option String) : Except Stop Given := do
  let g ← g.settle
  match value with
  | some v => g.set o v
  | none => return { g with pending := some (o, none) }

/-- A plain argument is the value that an option waits for, or nothing at all. -/
def plain (a : String) : Except Stop Given :=
  match g.pending with
  | some (o, none) => .ok { g with pending := some (o, some a) }
  | _ => .error .unknownArgument

end Given

/-! ### Lines -/

/-- The arguments behind a command. -/
def readOptions (verb : Verb) (g : Given) : List String → Except Stop Given
  | [] => g.settle
  | a :: as =>
    match Shape.ofArgument a with
    | .separator => if as.isEmpty then g.settle else .error .unknownArgument
    | .long name value =>
      match OptionName.ofName? verb name with
      | some o => do readOptions verb (← g.begin o value) as
      | none => do readOptions verb (← g.applyLong verb name value) as
    | .short letters => do readOptions verb (← g.applyLetters verb letters) as
    | .plain => do readOptions verb (← g.plain a) as

/-- The options with the database that the environment names, unless one is given. -/
def Given.withEnvironment (g : Given) (db : Option String) : Except Stop Given :=
  match g.db, db with
  | none, some v => g.set .db v
  | _, _ => .ok g

def Given.storeOptions (g : Given) : StoreOptions :=
  { config := g.config, repoRoot := g.repoRoot.getD ⟨"."⟩, db := g.db, maxCommits := g.maxCommits }

def Given.command (g : Given) : Verb → Command
  | .render => .render g.storeOptions g.docsDir g.suiteDir
  | .show => .show g.storeOptions (g.format.getD .text)

/-- The arguments behind `help` name a command, or none. -/
def readHelp : List String → Stop
  | [] => .help
  | [a] => if isCommandName a then .help else .unknownCommand
  | _ => .unknownCommand

/-- The end of a line without a command. -/
def noCommand (verbose : Bool) : Stop := if verbose then .missingCommand else .idle

/-- The arguments of the program; `db` is the database that the environment names. -/
def readArguments (db : Option String) (g : Given) : List String → Except Stop Invocation
  | [] => .error (noCommand g.verbose)
  | a :: as =>
    if a = "help" then .error (readHelp as)
    else match Verb.ofName? a with
      | some verb => do
        let options ← readOptions verb {} as
        let options ← options.withEnvironment db
        return { verbose := g.verbose || options.verbose, command := options.command verb }
      | none =>
        match Shape.ofArgument a with
        | .separator =>
          match as with
          | [] => .error (noCommand g.verbose)
          | b :: _ => .error (if isCommandName b then .unknownArgument else .unknownCommand)
        | .long name value => do readArguments db (← g.applyLong none name value) as
        | .short letters => do readArguments db (← g.applyLetters none letters) as
        | .plain => .error .unknownCommand

def Invocation.ofArguments (db : Option String) (args : List String) : Except Stop Invocation :=
  readArguments db {} args

end CommitCharts.CommandLine
