import CommitCharts.Config.Basic
import CommitCharts.Content
import CommitCharts.Decimal.Text
import CommitCharts.Text.Quoted
import CommitCharts.Yaml.Meaning
import CommitCharts.Yaml.Node.Parse

/-!
# CommitCharts.Config.Reader — settings from YAML

A settings file is a mapping of field names to values.  Fields may be left out and stand in any order, but not
twice.  The entries are read in order, and the first fault is the one that is reported.
-/

namespace CommitCharts.Config

open Yaml (Document Kind Mark Meaning Node)

inductive Field where
  | version
  | database
  | docsDir
  | suiteDir
  | maxCommits
  | overviewSize
  | trendSize
  deriving DecidableEq, Repr

namespace Field

def name : Field → String
  | .version => "version"
  | .database => "database"
  | .docsDir => "docs_dir"
  | .suiteDir => "suite_dir"
  | .maxCommits => "max_commits"
  | .overviewSize => "overview_size"
  | .trendSize => "trend_size"

def all : List Field := [.version, .database, .docsDir, .suiteDir, .maxCommits, .overviewSize, .trendSize]

def ofName? (s : String) : Option Field := all.find? (·.name == s)

theorem ofName?_name (f : Field) : ofName? f.name = some f := by cases f <;> decide

end Field

/-! ### Faults -/

/-- What is wanted in a place. -/
inductive Expected where
  | word
  | count
  | path
  | size
  | settings
  | fieldName
  deriving DecidableEq, Repr

def Expected.phrase : Expected → String
  | .word => "u32"
  | .count => "usize"
  | .path => "path string"
  | .size => "a tuple of size 2"
  | .settings => "struct PerfTrendConfig"
  | .fieldName => "field identifier"

/-- What is found in a place. -/
inductive Found where
  | scalar (m : Meaning)
  | sequence
  | mapping

/-- The number of an integer and how many bits it takes, if more than 64. -/
def integerPhrase (n : Int) : String :=
  let wide := if UInt64.size ≤ n then " as u128" else if n < Int64.minValue.toInt then " as i128" else ""
  String.join ["integer `", toString n, "`", wide]

def Found.phrase : Found → String
  | .scalar .null => "unit value"
  | .scalar (.boolean b) => String.join ["boolean `", toString b, "`"]
  | .scalar (.integer n) => integerPhrase n
  | .scalar (.float x) => String.join ["floating point `", Decimal.pointed x, "`"]
  | .scalar (.text s) => "string " ++ Text.quoted s
  | .sequence => "sequence"
  | .mapping => "map"

/-- What is wrong with a value or a key. -/
inductive Problem where
  | wrongType (found : Found) (expected : Expected)
  | outOfRange (n : Nat) (expected : Expected)
  /-- A scalar that is not of the kind of its tag. -/
  | wrongKind (text : String) (kind : Kind)
  | tooShort (length : Nat)
  | tooLong (length : Nat)
  | unknownField (name : String)
  | duplicateField (field : Field)

def Problem.message : Problem → String
  | .wrongType found expected => String.join ["invalid type: ", found.phrase, ", expected ", expected.phrase]
  | .outOfRange n expected => String.join ["invalid value: ", integerPhrase n, ", expected ", expected.phrase]
  | .wrongKind text kind => String.join ["invalid value: string ", Text.quoted text, ", expected ", kind.phrase]
  | .tooShort n => String.join ["invalid length ", toString n, ", expected ", Expected.size.phrase]
  | .tooLong n => String.join ["invalid length ", toString n, ", expected sequence of 2 elements"]
  | .unknownField name =>
    let names := ", ".intercalate (Field.all.map fun f => String.join ["`", f.name, "`"])
    String.join ["unknown field `", name, "`, expected one of ", names]
  | .duplicateField f => String.join ["duplicate field `", f.name, "`"]

/-- Why a text holds no settings. -/
inductive ParseError where
  /-- The text is no YAML, or ends too early. -/
  | malformed
  | severalDocuments
  /-- A fault at a place, given by the path of fields that leads to it. -/
  | problem (p : Problem) (path : String) (mark : Mark)

/-- The place is left out where it is the very start of the text. -/
def ParseError.message : ParseError → String
  | .malformed => "malformed document"
  | .severalDocuments => "deserializing from YAML containing more than one document is not supported"
  | .problem p path m =>
    let place := if m.line = 0 ∧ m.column = 0 then ""
      else String.join [" at line ", toString (m.line + 1), " column ", toString (m.column + 1)]
    String.join [if path.isEmpty then "" else path ++ ": ", p.message, place]

/-! ### Values -/

section Values

variable (d : Document)

/-- The node itself, or the one that its alias stands for. -/
def target (n : Node) : Except ParseError Node :=
  match n with
  | .alias m name =>
    match d.target? m name with
    | some t => .ok t
    | none => .error .malformed
  | .missing => .error .malformed
  | _ => .ok n

/-- The fault of a node that is of another type than expected. -/
def mismatch (expected : Expected) (path : String) (n : Node) : ParseError :=
  match n with
  | .scalar m _ s =>
    match s.meaning with
    | .ok meaning => .problem (.wrongType (.scalar meaning) expected) path m
    | .error kind => .problem (.wrongKind s.text kind) path m
  | .sequence m .. => .problem (.wrongType .sequence expected) path m
  | .mapping m .. => .problem (.wrongType .mapping expected) path m
  | .alias .. | .missing => .malformed

/-- A number from zero on. -/
def readNatural (expected : Expected) (path : String) (n : Node) : Except ParseError (Mark × Nat) := do
  let n ← target d n
  match n with
  | .scalar m _ s =>
    match s.natural? with
    | some k => return (m, k)
    | none => throw (mismatch expected path n)
  | _ => throw (mismatch expected path n)

def readWord (path : String) (n : Node) : Except ParseError UInt32 := do
  let (m, k) ← readNatural d .word path n
  if k < UInt32.size then return k.toUInt32 else throw (.problem (.outOfRange k .word) path m)

def readCount (path : String) (n : Node) : Except ParseError UInt64 := do
  let (_, k) ← readNatural d .count path n
  return k.toUInt64

def readPath (path : String) (n : Node) : Except ParseError Path := do
  let n ← target d n
  match n with
  | .scalar _ _ s => return ⟨s.text⟩
  | _ => throw (mismatch .path path n)

/-- The path of an item. -/
def itemPath (path : String) (i : Nat) : String := String.join [path, "[", toString i, "]"]

/-- All aliases in the tree stand for nodes. -/
def isResolved (n : Node) : Bool :=
  n.flatten.all fun
    | .alias m name => (d.target? m name).isSome
    | _ => true

/-- Two items that are numbers, and no others.  Surplus items are only counted. -/
def readPair (path : String) (m : Mark) (items : List Node) (closed : Bool) : Except ParseError Chart.Size :=
  match items with
  | [] => .error (if closed then .problem (.tooShort 0) path m else .malformed)
  | [x] => do
    let _ ← readWord d (itemPath path 0) x
    throw (if closed then .problem (.tooShort 1) path m else .malformed)
  | x :: y :: more => do
    let width ← readWord d (itemPath path 0) x
    let height ← readWord d (itemPath path 1) y
    if ¬ (closed ∧ more.all (isResolved d)) then throw .malformed
    if more.isEmpty then return ⟨width, height⟩
    else throw (.problem (.tooLong (more.length + 2)) path m)

/-- A plain scalar without text stands for a sequence without items. -/
def readSize (path : String) (n : Node) : Except ParseError Chart.Size := do
  let n ← target d n
  match n with
  | .sequence m _ items closed => readPair d path m items closed
  | .scalar m _ s =>
    if s.text.isEmpty ∧ s.style = .plain then readPair d path m [] true else throw (mismatch .size path n)
  | _ => throw (mismatch .size path n)

/-! ### Fields -/

/-- The field that a key names. -/
def readKey (k : Node) : Except ParseError Field := do
  let k ← target d k
  match k with
  | .scalar m _ s =>
    match Field.ofName? s.text with
    | some f => return f
    | none => throw (.problem (.unknownField s.text) "" m)
  | _ => throw (mismatch .fieldName "" k)

/-- The settings with the value of a field. -/
def readField (c : Config) (f : Field) (path : String) (v : Node) : Except ParseError Config :=
  match f with
  | .version => do return { c with version := ← readWord d path v }
  | .database => do return { c with database := ← readPath d path v }
  | .docsDir => do return { c with docsDir := ← readPath d path v }
  | .suiteDir => do return { c with suiteDir := ← readPath d path v }
  | .maxCommits => do return { c with maxCommits := ← readCount d path v }
  | .overviewSize => do return { c with overviewSize := ← readSize d path v }
  | .trendSize => do return { c with trendSize := ← readSize d path v }

/-- The path to a value.  A key that is an alias shows as a question mark. -/
def keyPath : Node → String
  | .scalar _ _ s => s.text
  | _ => "?"

/-- The settings with the values of all entries; `seen` are the fields that were read before. -/
def readEntries (m : Mark) (closed : Bool) (seen : List Field) (c : Config) :
    List (Node × Node) → Except ParseError Config
  | [] => if closed then .ok c else .error .malformed
  | (k, v) :: es => do
    let f ← readKey d k
    if seen.contains f then throw (.problem (.duplicateField f) "" m)
    let c ← readField d c f (keyPath k) v
    readEntries m closed (f :: seen) c es

end Values

/-- The settings of a document; all defaults if it is empty. -/
def ofDocument (d : Document) : Except ParseError Config := do
  let c ← match d.root with
    | none => .ok {}
    | some (.mapping m _ entries closed) => readEntries d m closed [] {} entries
    | some n =>
      match n with
      | .scalar _ _ s => if s.text.isEmpty ∧ s.style = .plain then .ok {} else .error (mismatch .settings "" n)
      | _ => .error (mismatch .settings "" n)
  if ¬ d.whole then throw .malformed
  if ¬ d.alone then throw .severalDocuments
  return c

/-- Why settings could not be taken from a text or a file. -/
inductive LoadError where
  | read (path : Path) (reason : String)
  | parse (e : ParseError)
  | rejected (r : Rejection)

def LoadError.message : LoadError → String
  | .read path reason => String.join ["failed to read config ", path.text, ": ", reason]
  | .parse e => "failed to parse YAML: " ++ e.message
  | .rejected r => r.message

/-- The messages of an error from the outermost to its last cause. -/
def LoadError.chain (e : LoadError) : List String :=
  e.message ::
    match e with
    | .read _ reason => [reason]
    | .parse e => [e.message]
    | .rejected _ => []

/-- The settings that a text holds, if they are acceptable. -/
def parse (text : String) : Except LoadError Config := do
  let c ← (ofDocument (.ofText text)).mapError .parse
  c.validate.mapError .rejected
  return c

/-- The settings that a file holds, if they are acceptable. -/
def load (files : Files) (path : Path) : Except LoadError Config :=
  match files.read path with
  | .error fault => .error (.read path fault.message)
  | .ok content =>
    match content.text? with
    | some text => parse text
    | none => .error (.read path "stream did not contain valid UTF-8")

end CommitCharts.Config
