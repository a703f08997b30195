import CommitCharts.Database.Answer
import CommitCharts.Database.Schema

/-!
# CommitCharts.Database.File — the answer that a database file gives

Results and runs are looked up by name, as tables or views.  Each result is joined to its runs, runs without a
commit are left out, and the rest is ordered by time, run and result.  How values compare is up to the columns.
-/

namespace CommitCharts.Database

open Sql

/-- The statement that reads the records. -/
def statement : String :=
  "SELECT r.GitCommit, t.TestId, t.TestName, t.Cycles\n" ++
  "     FROM PerformanceTestResults t\n" ++
  "     INNER JOIN PerformanceTestRuns r ON t.RunId = r.Id\n" ++
  "     WHERE r.GitCommit IS NOT NULL AND r.GitCommit != ''\n" ++
  "     ORDER BY r.RunTimestamp DESC, r.Id DESC, t.Id ASC\n" ++
  "     LIMIT ?1"

/-- The column of a table that the statement names, at a place that is known unless it is in the join. -/
def columnIn (r : Relation) (label name : String) (place : Option Nat) : Except QueryError (Nat × Field) :=
  match (r.fields.zipIdx.find? fun f => !f.1.isHidden && sameName f.1.name name) with
  | some (f, i) => .ok (i, f)
  | none => .error (.noColumn (label ++ "." ++ name) statement place)

/-- Demand that the values of a column can be compared. -/
def checkComparable (c : Nat × Field) : Except QueryError Unit :=
  match c.2.collation with
  | some (.unknown name) => .error (.invalid ("no such collation sequence: " ++ name))
  | _ => .ok ()

/-- A column with its place in a row in which other columns go before. -/
def column (before : Nat) (c : Nat × Field) : Expr := .field (before + c.1) c.2.affinity c.2.collation

/-- The order of two values of a column. -/
def compareIn (e : Encoding) (c : Nat × Field) (a b : List Value) : Ordering :=
  compareValues e (c.2.collation.getD .binary) ((a[c.1]?).getD .null) ((b[c.1]?).getD .null)

/-- The rows that two relations of results and runs yield. -/
def answerOf (e : Encoding) (results runs : Relation) : Except QueryError Answer := do
  let commit ← columnIn runs "r" "GitCommit" (some 7)
  let testId ← columnIn results "t" "TestId" (some 20)
  let testName ← columnIn results "t" "TestName" (some 30)
  let cycles ← columnIn results "t" "Cycles" (some 42)
  let runId ← columnIn results "t" "RunId" none
  let id ← columnIn runs "r" "Id" none
  let timestamp ← columnIn runs "r" "RunTimestamp" (some 213)
  let number ← columnIn results "t" "Id" (some 245)
  [commit, runId, id, timestamp, number].forM checkComparable
  let isKept : Expr :=
    .binary .and (.binary .isNot (column 0 commit) (.value .null))
      (.binary .unequal (column 0 commit) (.value (.text "")))
  let holds (condition : Expr) (row : List Value) : Bool := truth? (condition.eval e row) = some true
  let belongs : Expr := .binary .equal (column 0 runId) (column results.fields.length id)
  let order (a b : List Value × List Value) : Ordering :=
    (compareIn e timestamp b.2 a.2).then ((compareIn e id b.2 a.2).then (compareIn e number a.1 b.1))
  let rows : Except Fault (List (List Value × List Value)) := do
    let left ← results.rows
    let right ← if left.isEmpty then .ok [] else runs.rows
    let kept := right.filter (holds isKept)
    let pairs := left.flatMap fun t => (kept.filter fun r => holds belongs (t ++ r)).map (t, ·)
    return pairs.mergeSort fun a b => (order a b).isLE
  let value (row : List Value) (c : Nat × Field) : Value := (row[c.1]?).getD .null
  return { names := ⟨commit.2.name, testId.2.name, testName.2.name, cycles.2.name⟩
           rows := (← rows.mapError .unreadable).map fun (t, r) =>
             ⟨value r commit, value t testId, value t testName, value t cycles⟩ }

/-- The image in a file, and what it lists. -/
def readFile (bytes : ByteArray) : Except Fault (Image × Schema) := do
  let img ← Image.ofBytes bytes
  return (img, ← Schema.ofImage img)

/-- Why a file cannot be opened as a database, if it cannot. -/
def openingFault? (bytes : ByteArray) : Option Fault :=
  if Image.isEmptyFile bytes then none
  else
    match readFile bytes with
    | .ok _ => none
    | .error fault => some fault

def fileAnswer? (bytes : ByteArray) : Except QueryError Answer := do
  if Image.isEmptyFile bytes then throw (.noTable "PerformanceTestResults")
  let (img, schema) ← (readFile bytes).mapError .unreadable
  let results ← schema.lookup img "PerformanceTestResults" ["Id", "RunId", "TestId", "TestName", "Cycles"]
  let runs ← schema.lookup img "PerformanceTestRuns" ["Id", "RunTimestamp", "GitCommit"]
  answerOf img.encoding results runs

end CommitCharts.Database
