import CommitCharts.Database.Answer
import CommitCharts.Database.Basic

/-!
# CommitCharts.Database.Recent — the most recent results

Results are joined to their runs.  Runs without a commit are left out.  The rest is ordered by time, latest
first, then by run number, largest first, then by result number.
-/

namespace CommitCharts.Database

/-- A result row with its run. -/
structure Joined where
  runId : Int64
  run : RunRow
  resultId : Int64
  result : ResultRow

/-- A run counts when it has a commit that is not the empty text. -/
def RunRow.isKept (r : RunRow) : Bool := r.commit != .null && r.commit != .text ""

/-- The run that a result belongs to. -/
def ResultRow.runOf? (runs : SortedMap Int64 RunRow) (r : ResultRow) : Option (Int64 × RunRow) :=
  match r.run with
  | .integer id => (runs.get? id).map (id, ·)
  | _ => none

/-- Every result with its run, if that run is kept, by result number. -/
def joined (runs : SortedMap Int64 RunRow) (results : SortedMap Int64 ResultRow) : List Joined :=
  results.entries.filterMap fun e =>
    (e.2.runOf? runs).bind fun r => if r.2.isKept then some ⟨r.1, r.2, e.1, e.2⟩ else none

/-- The order of rows: `.lt` stands for the earlier place. -/
def Joined.order (a b : Joined) : Ordering :=
  (compare b.run.timestamp a.run.timestamp).then
    ((compare b.runId a.runId).then (compare a.resultId b.resultId))

/-- All rows in the order in which they are read. -/
def rows (runs : SortedMap Int64 RunRow) (results : SortedMap Int64 ResultRow) : List Joined :=
  (joined runs results).mergeSort fun a b => (a.order b).isLE

/-- What is read of a row. -/
def Joined.row (j : Joined) : Row :=
  ⟨j.run.commit.toValue, j.result.testId, j.result.testName.toValue, j.result.cycles⟩

def answer? (d : Database) : Except QueryError Answer :=
  match d.results, d.runs with
  | none, _ => .error (.noTable "PerformanceTestResults")
  | some _, none => .error (.noTable "PerformanceTestRuns")
  | some results, some runs => .ok { rows := (rows runs.rows results.rows).map Joined.row }

/-- The first `limit` records. -/
def recent (d : Database) (limit : Nat) : Except QueryError (List Record) := do
  (← d.answer?).recent limit

end CommitCharts.Database
