import CommitCharts.Database.Value
import CommitCharts.SortedMap

/-!
# CommitCharts.Database.Basic — the two tables of measured results

The measuring harness writes a row for every run and a row for every result of a run.  Rows are numbered
upwards and a number is never used twice.  Nothing ties a result to a run but the run's number in it.
-/

namespace CommitCharts.Database

structure RunRow where
  timestamp : TextCell
  commit : TextCell

structure ResultRow where
  run : Value
  testId : Value
  testName : TextCell
  cycles : Value

/-- Rows by number, with the largest number that was ever used. -/
structure Table (ρ : Type) where
  rows : SortedMap Int64 ρ := ∅
  lastId : Int64 := 0

namespace Table

variable {ρ : Type}

def insert (t : Table ρ) (id : Int64) (row : ρ) : Table ρ := ⟨t.rows.insert id row, max t.lastId id⟩

def nextId (t : Table ρ) : Int64 := t.lastId + 1

end Table

end Database

/-- The tables of a database; either may be missing. -/
structure Database where
  runs : Option (Database.Table Database.RunRow) := none
  results : Option (Database.Table Database.ResultRow) := none

namespace Database

/-- A change of a database. -/
inductive Change where
  | createRuns
  | createResults
  | dropRuns
  | dropResults
  /-- A run with the given number, or the next one, and its results: test id, test name and cycles. -/
  | addRun (id : Option Int64) (timestamp commit : Value) (results : List (Value × Value × Value))
  | addResult (run testId testName cycles : Value)
  /-- The results of the run stay. -/
  | deleteRun (id : Int64)
  | setCommit (id : Int64) (commit : Value)

def addResult (d : Database) (run testId testName cycles : Value) : Database :=
  { d with results := d.results.map fun t =>
      t.insert t.nextId ⟨run.asInteger, testId.asInteger, testName.asText, cycles.asInteger⟩ }

def addRun (d : Database) (id : Int64) (timestamp commit : Value) : Database :=
  { d with runs := d.runs.map (·.insert id ⟨timestamp.asText, commit.asText⟩) }

def apply (d : Database) : Change → Database
  | .createRuns => { d with runs := some {} }
  | .createResults => { d with results := some {} }
  | .dropRuns => { d with runs := none }
  | .dropResults => { d with results := none }
  | .addRun id timestamp commit results =>
    let id := id.getD ((d.runs.map Table.nextId).getD 1)
    results.foldl (fun d r => d.addResult (.integer id) r.1 r.2.1 r.2.2) (d.addRun id timestamp commit)
  | .addResult run testId testName cycles => d.addResult run testId testName cycles
  | .deleteRun id => { d with runs := d.runs.map fun t => { t with rows := t.rows.erase id } }
  | .setCommit id commit =>
    { d with runs := d.runs.map fun t =>
        match t.rows.get? id with
        | some row => { t with rows := t.rows.insert id { row with commit := commit.asText } }
        | none => t }

def applyAll (d : Database) (changes : List Change) : Database := changes.foldl apply d

end Database

end CommitCharts
