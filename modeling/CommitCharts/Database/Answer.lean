import CommitCharts.Database.Fault
import CommitCharts.Database.Value
import CommitCharts.Record
import CommitCharts.Text.Utf8

/-!
# CommitCharts.Database.Answer — the rows that a query yields

A query yields rows of four values each, in the order in which they are read.  A limit cuts the list before its
rows are read, and the first row that is no record fails the whole query.
-/

namespace CommitCharts.Database

/-- A row that a query yields. -/
structure Row where
  commit : Value
  testId : Value
  testName : Value
  cycles : Value

/-- The names of the four values. -/
structure Names where
  commit : String := "GitCommit"
  testId : String := "TestId"
  testName : String := "TestName"
  cycles : String := "Cycles"
  deriving DecidableEq, Repr

structure Answer where
  names : Names := {}
  rows : List Row

inductive QueryError where
  | noTable (name : String)
  /-- The statement names a column that is not there, at a place that may be known. -/
  | noColumn (name statement : String) (place : Option Nat)
  /-- The statement needs something that cannot be understood. -/
  | invalid (reason : String)
  | columnType (type : String) (index : Nat) (name : String)
  | malformedText (index : Nat) (fault : Text.Utf8Fault)
  | outOfRange (value : Int64) (index : Nat)
  /-- The file no longer holds a database. -/
  | unreadable (fault : Fault)
  deriving DecidableEq, Repr

def QueryError.message : QueryError → String
  | .noTable name => "no such table: " ++ name
  | .noColumn name statement place =>
    "no such column: " ++ name ++
      match place with
      | some n => " in " ++ statement ++ " at offset " ++ toString n
      | none => ""
  | .invalid reason => reason
  | .columnType type index name =>
    "Invalid column type " ++ type ++ " at index: " ++ toString index ++ ", name: " ++ name
  | .malformedText index fault =>
    "Conversion error from type Text at index: " ++ toString index ++ ", " ++ fault.message
  | .outOfRange value index => "Integer " ++ toString value ++ " out of range at index " ++ toString index
  | .unreadable fault => fault.message

/-- What lies behind an error, in the words of its own cause. -/
def QueryError.causes : QueryError → List String
  | .noTable _ | .noColumn .. | .invalid _ => ["Error code 1: SQL error or missing database"]
  | .malformedText _ fault => [fault.message]
  | .unreadable fault => [fault.code]
  | .columnType .. | .outOfRange .. => []

def integerAt (v : Value) (index : Nat) (name : String) : Except QueryError Int64 :=
  match v with
  | .integer n => .ok n
  | v => .error (.columnType v.typeName index name)

def textAt (v : Value) (index : Nat) (name : String) : Except QueryError String :=
  match v with
  | .text s => .ok s
  | .malformed b => .error (.malformedText index ((Text.utf8Fault? b).getD ⟨b.length, none⟩))
  | v => .error (.columnType v.typeName index name)

/-- The record of a row.  The kinds of test id, cycles and commit are looked at before the range of the
test id, then the kind of the test name, then the sign of the cycles. -/
def Row.record (names : Names) (r : Row) : Except QueryError Record := do
  let id ← integerAt r.testId 1 names.testId
  let cycles ← integerAt r.cycles 3 names.cycles
  let commit ← textAt r.commit 0 names.commit
  if id < 0 ∨ UInt32.size ≤ id.toInt then throw (.outOfRange id 1)
  let testName ← textAt r.testName 2 names.testName
  if cycles < 0 then throw (.outOfRange cycles 3)
  return ⟨commit, id.toInt.toNat.toUInt32, testName, cycles.toInt.toNat.toUInt64⟩

/-- The first `limit` records. -/
def Answer.recent (a : Answer) (limit : Nat) : Except QueryError (List Record) :=
  (a.rows.take limit).mapM (Row.record a.names)

end CommitCharts.Database
