import CommitCharts.Database.File
import CommitCharts.Proofs.Database.Recency

/-!
# CommitCharts.Proofs.Database.File — the two tables in a database file

A database file is read through relations whose columns are found by name and compared by rules of their own.  If the
relations show the two tables as they were made, the file has the same rows in the same order as the tables
(`answerOf_eq`).
-/

namespace CommitCharts.Database

open Sql

/-! ### Values under a comparison -/

theorem truth?_ofBool (b : Bool) : truth? (ofBool b) = some b := by cases b <;> rfl

/-- Integers compare as numbers. -/
theorem compareValues_integer (e : Encoding) (c : Collation) (m n : Int64) :
    compareValues e c (.integer m) (.integer n) = compare m n := by
  show compare (m.toInt * (Nat.pow 2 0 : Nat)) (n.toInt * (Nat.pow 2 0 : Nat)) = compare m n
  have hone : ((Nat.pow 2 0 : Nat) : Int) = 1 := rfl
  rw [hone, Int.mul_one, Int.mul_one]
  show compareOfLessAndEq m.toInt n.toInt = compareOfLessAndEq m n
  simp only [compareOfLessAndEq, ← Int64.lt_iff_toInt_lt, Int64.toInt_inj]

/-- Cells of a text column compare by kind and then by their bytes. -/
theorem compareValues_text (a b : TextCell) : compareValues .utf8 .binary a.toValue b.toValue = compare a b := by
  have htexts (x y : List UInt8) : (compare x y).then (compare 0 0) = compare x y := by
    rw [Std.compare_self, Ordering.then_eq]
  cases a with
  | null => cases b <;> rfl
  | blob x => cases b <;> rfl
  | text s =>
    cases b with
    | null | blob => rfl
    | text t => exact htexts (textBytes s) (textBytes t)
    | malformed y => exact htexts (textBytes s) y
  | malformed x =>
    cases b with
    | null | blob => rfl
    | text t => exact htexts x (textBytes t)
    | malformed y => exact htexts x y

theorem textBytes_eq_nil_iff {s : String} : textBytes s = [] ↔ s = "" := by
  unfold textBytes
  rw [Array.toList_eq_nil_iff]
  constructor
  · intro h
    exact String.toByteArray_inj.1 (ByteArray.ext h)
  · rintro rfl
    rfl

/-! ### Conditions on rows -/

/-- The value of a column in a row. -/
def valueIn (row : List Value) (c : Nat × Field) : Value := (row[c.1]?).getD .null

theorem eval_column (e : Encoding) (before row : List Value) (c : Nat × Field) :
    (column before.length c).eval e (before ++ row) = valueIn row c := by
  show ((before ++ row)[before.length + c.1]?).getD .null = (row[c.1]?).getD .null
  rw [List.getElem?_append_right (Nat.le_add_right _ _), Nat.add_sub_cancel_left]

theorem eval_column_zero (e : Encoding) (row behind : List Value) {c : Nat × Field} (h : c.1 < row.length) :
    (column 0 c).eval e (row ++ behind) = valueIn row c := by
  show ((row ++ behind)[0 + c.1]?).getD .null = (row[c.1]?).getD .null
  rw [Nat.zero_add, List.getElem?_append_left h]

theorem columnIn_lt {r : Relation} {label name : String} {place : Option Nat} {c : Nat × Field}
    (h : columnIn r label name place = .ok c) : c.1 < r.fields.length := by
  unfold columnIn at h
  split at h
  · rename_i f i hfind
    cases h
    exact (List.mem_zipIdx' (List.mem_of_find?_eq_some hfind)).1
  · cases h

/-- The condition that a run has a commit. -/
def keptCondition (commit : Nat × Field) : Expr :=
  .binary .and (.binary .isNot (column 0 commit) (.value .null))
    (.binary .unequal (column 0 commit) (.value (.text "")))

/-- The condition that a result belongs to a run, whose columns stand behind `size` columns of the result. -/
def ownCondition (run : Nat × Field) (size : Nat) (id : Nat × Field) : Expr :=
  .binary .equal (column 0 run) (column size id)

theorem truth?_isKept {row : List Value} {c : Nat × Field} {cell : TextCell} (haffinity : c.2.affinity = .text)
    (hcollation : c.2.collation = some .binary) (hvalue : valueIn row c = cell.toValue)
    (hcell : cell ≠ .malformed []) :
    truth? ((keptCondition c).eval .utf8 row) = some (cell != .null && cell != .text "") := by
  have hcolumn : (column 0 c).eval .utf8 row = cell.toValue := (eval_column .utf8 [] row c).trans hvalue
  have hcondition : (keptCondition c).eval .utf8 row =
      ofTruth (and? (truth? (operate .utf8 .text .binary .isNot cell.toValue .null))
        (truth? (operate .utf8 .text .binary .unequal cell.toValue (.text "")))) := by
    rw [← hcolumn]
    simp only [Expr.eval, keptCondition, column, haffinity, hcollation]
    rfl
  rw [hcondition]
  cases cell with
  | null => rfl
  | blob b => rfl
  | malformed b =>
    cases b with
    | nil => exact absurd rfl hcell
    | cons x xs => rfl
  | text s =>
    by_cases hs : s = ""
    · rw [hs]
      rfl
    · have hbytes : textBytes s ≠ [] := mt textBytes_eq_nil_iff.1 hs
      have hunequal : operate .utf8 .text .binary .unequal (TextCell.text s).toValue (.text "") = ofBool true := by
        have hcompare : compare (TextCell.text s) (.text "") ≠ .eq := by
          show compare (textBytes s) [] ≠ .eq
          cases hlist : textBytes s with
          | nil => exact absurd hlist hbytes
          | cons x xs => exact fun h => by cases h
        show ofBool (compareValues .utf8 .binary (TextCell.text s).toValue (TextCell.text "").toValue != .eq) = _
        rw [compareValues_text, bne_iff_ne.2 hcompare]
      have hkept : ((TextCell.text s != .null) && (TextCell.text s != .text "")) = true := by simp [hs]
      rw [hunequal, hkept]
      rfl

theorem truth?_isOf {t r : List Value} {run id : Nat × Field} {n : Int64} {v : Value}
    (hrunAffinity : run.2.affinity = .integer) (hidAffinity : id.2.affinity = .integer)
    (hcollation : run.2.collation = some .binary) (hlength : run.1 < t.length) (hrun : (valueIn t run).asInteger = v)
    (hv : ∀ x, v ≠ .real x) (hid : valueIn r id = .integer n) :
    truth? ((ownCondition run t.length id).eval .utf8 (t ++ r)) = some true ↔ v = .integer n := by
  have hcondition : (ownCondition run t.length id).eval .utf8 (t ++ r) =
      operate .utf8 .numeric .binary .equal (valueIn t run) (.integer n) := by
    rw [← eval_column_zero .utf8 t r hlength, ← hid, ← eval_column .utf8 t r id]
    simp only [Expr.eval, ownCondition, column, hrunAffinity, hidAffinity, hcollation]
    rfl
  rw [hcondition]
  by_cases hnull : valueIn t run = .null
  · have hv : v = .null := by rw [← hrun, hnull]; rfl
    rw [hnull, hv]
    exact iff_of_false (fun h => by cases h) (fun h => by cases h)
  · have hcompare : operate .utf8 .numeric .binary .equal (valueIn t run) (.integer n) =
        ofBool (compareValues .utf8 .binary v (.integer n) == .eq) := by
      rw [← hrun]
      cases hraw : valueIn t run with
      | null => exact absurd hraw hnull
      | _ => rfl
    rw [hcompare, truth?_ofBool]
    cases v with
    | integer m =>
      rw [compareValues_integer]
      simp
    | real x => exact absurd rfl (hv x)
    | _ => exact iff_of_false (fun h => by cases h) (fun h => by cases h)

/-! ### Relations that show tables -/

structure RunColumns where
  id : Nat × Field
  timestamp : Nat × Field
  commit : Nat × Field

structure ResultColumns where
  number : Nat × Field
  run : Nat × Field
  testId : Nat × Field
  testName : Nat × Field
  cycles : Nat × Field

/-- A relation shows a table of runs: its columns are found by their names, hold integers and texts, compare byte by
byte, and have a row for each run. -/
structure ShowsRuns (r : Relation) (columns : RunColumns) (runs : SortedMap Int64 RunRow)
    (rowOf : Int64 × RunRow → List Value) : Prop where
  id : columnIn r "r" "Id" none = .ok columns.id
  timestamp : columnIn r "r" "RunTimestamp" (some 213) = .ok columns.timestamp
  commit : columnIn r "r" "GitCommit" (some 7) = .ok columns.commit
  idAffinity : columns.id.2.affinity = .integer
  commitAffinity : columns.commit.2.affinity = .text
  idCollation : columns.id.2.collation = some .binary
  timestampCollation : columns.timestamp.2.collation = some .binary
  commitCollation : columns.commit.2.collation = some .binary
  rows : r.rows = .ok (runs.entries.map rowOf)
  values : ∀ e ∈ runs.entries, valueIn (rowOf e) columns.id = .integer e.1 ∧
    valueIn (rowOf e) columns.timestamp = e.2.timestamp.toValue ∧
    valueIn (rowOf e) columns.commit = e.2.commit.toValue ∧ e.2.commit ≠ .malformed []

/-- A relation shows a table of results.  The numbers of runs in it are no floats. -/
structure ShowsResults (r : Relation) (columns : ResultColumns) (results : SortedMap Int64 ResultRow)
    (rowOf : Int64 × ResultRow → List Value) : Prop where
  number : columnIn r "t" "Id" (some 245) = .ok columns.number
  run : columnIn r "t" "RunId" none = .ok columns.run
  testId : columnIn r "t" "TestId" (some 20) = .ok columns.testId
  testName : columnIn r "t" "TestName" (some 30) = .ok columns.testName
  cycles : columnIn r "t" "Cycles" (some 42) = .ok columns.cycles
  runAffinity : columns.run.2.affinity = .integer
  numberCollation : columns.number.2.collation = some .binary
  runCollation : columns.run.2.collation = some .binary
  rows : r.rows = .ok (results.entries.map rowOf)
  size : ∀ e ∈ results.entries, (rowOf e).length = r.fields.length
  values : ∀ e ∈ results.entries, valueIn (rowOf e) columns.number = .integer e.1 ∧
    (valueIn (rowOf e) columns.run).asInteger = e.2.run ∧ (∀ x, e.2.run ≠ .real x) ∧
    valueIn (rowOf e) columns.testId = e.2.testId ∧
    valueIn (rowOf e) columns.testName = e.2.testName.toValue ∧
    valueIn (rowOf e) columns.cycles = e.2.cycles

/-- The names under which four columns are found. -/
def namesOf (runs : RunColumns) (results : ResultColumns) : Names :=
  ⟨runs.commit.2.name, results.testId.2.name, results.testName.2.name, results.cycles.2.name⟩

variable {left right : Relation} {resultColumns : ResultColumns} {runColumns : RunColumns}
  {results : SortedMap Int64 ResultRow} {runs : SortedMap Int64 RunRow}
  {resultRow : Int64 × ResultRow → List Value} {runRow : Int64 × RunRow → List Value}

/-- The runs that a result belongs to and that count: one at most. -/
theorem filter_isOf (runs : SortedMap Int64 RunRow) (e : ResultRow) :
    (runs.entries.filter fun r => r.2.isKept).filter (fun r => e.isOf r.1) =
      ((e.runOf? runs).filter fun r => r.2.isKept).toList := by
  rw [List.filter_comm]
  unfold ResultRow.isOf ResultRow.runOf?
  cases e.run with
  | integer id =>
    have hkey : (runs.entries.filter fun r => id == r.1) = ((runs.get? id).map (id, ·)).toList := by
      rw [← SortedMap.filter_key]
      refine List.filter_congr fun r _ => ?_
      rw [Bool.beq_eq_decide_eq]
      exact decide_eq_decide.2 eq_comm
    dsimp only
    rw [hkey]
    cases runs.get? id with
    | none => rfl
    | some row =>
      by_cases hrow : row.isKept = true
      · simp [Option.filter, hrow]
      · simp [Option.filter, hrow]
  | _ => simp

/-- The rows of two relations that belong together are those of the tables. -/
theorem pairs_eq (hresults : ShowsResults left resultColumns results resultRow)
    (hruns : ShowsRuns right runColumns runs runRow) :
    ((results.entries.map resultRow).flatMap fun t =>
      (((runs.entries.map runRow).filter fun r =>
        truth? ((keptCondition runColumns.commit).eval .utf8 r) = some true).filter fun r =>
          truth? ((ownCondition resultColumns.run left.fields.length runColumns.id).eval .utf8 (t ++ r)) =
            some true).map (t, ·)) =
      (joined runs results).map fun j => (resultRow (j.resultId, j.result), runRow j.source) := by
  have hkept : ((runs.entries.map runRow).filter fun r =>
      truth? ((keptCondition runColumns.commit).eval .utf8 r) = some true) =
      (runs.entries.filter fun r => r.2.isKept).map runRow := by
    rw [List.filter_map]
    refine congrArg (List.map runRow) (List.filter_congr fun r hr => ?_)
    obtain ⟨-, -, hcommit, hcell⟩ := hruns.values r hr
    have htruth := truth?_isKept hruns.commitAffinity hruns.commitCollation hcommit hcell
    simp only [Function.comp_apply, htruth, Option.some_inj, Bool.decide_eq_true]
    rfl
  unfold joined
  rw [List.flatMap_map, List.map_filterMap, List.filterMap_eq_flatMap_toList]
  refine List.flatMap_congr fun e he => ?_
  have hown : (((runs.entries.filter fun r => r.2.isKept).map runRow).filter fun r =>
      truth? ((ownCondition resultColumns.run left.fields.length runColumns.id).eval .utf8 (resultRow e ++ r)) =
        some true) = (((e.2.runOf? runs).filter fun r => r.2.isKept).toList).map runRow := by
    rw [List.filter_map, ← filter_isOf]
    refine congrArg (List.map runRow) (List.filter_congr fun r hr => ?_)
    have hid := (hruns.values r (List.mem_of_mem_filter hr)).1
    obtain ⟨-, hrun, hreal, -⟩ := hresults.values e he
    have hlength : resultColumns.run.1 < (resultRow e).length := by
      rw [hresults.size e he]
      exact columnIn_lt hresults.run
    have htruth := truth?_isOf hresults.runAffinity hruns.idAffinity hresults.runCollation hlength hrun hreal hid
    rw [hresults.size e he] at htruth
    rw [Bool.eq_iff_iff, ResultRow.isOf_iff, ← htruth]
    simp
  rw [hkept, hown]
  cases e.2.runOf? runs with
  | none => rfl
  | some r =>
    dsimp only [Option.bind_some]
    by_cases hr : r.2.isKept = true
    · rw [if_pos hr]
      simp [Option.filter, hr, Joined.source]
    · rw [if_neg hr]
      simp [Option.filter, hr]

/-- The order of pairs of rows is that of the tables. -/
theorem order_pairs (hresults : ShowsResults left resultColumns results resultRow)
    (hruns : ShowsRuns right runColumns runs runRow) {a b : Joined} (ha : a ∈ joined runs results)
    (hb : b ∈ joined runs results) :
    (compareIn .utf8 runColumns.timestamp (runRow b.source) (runRow a.source)).then
      ((compareIn .utf8 runColumns.id (runRow b.source) (runRow a.source)).then
        (compareIn .utf8 resultColumns.number (resultRow (a.resultId, a.result)) (resultRow (b.resultId, b.result)))) =
      a.order b := by
  have hvalues {j : Joined} (hj : j ∈ joined runs results) :
      valueIn (runRow j.source) runColumns.timestamp = j.run.timestamp.toValue ∧
        valueIn (runRow j.source) runColumns.id = .integer j.runId ∧
        valueIn (resultRow (j.resultId, j.result)) resultColumns.number = .integer j.resultId := by
    obtain ⟨hrun, hrow⟩ := mem_joined.1 hj
    obtain ⟨hid, htimestamp, -⟩ := hruns.values j.source (SortedMap.mem_entries.2 (mem_keptRuns.1 hrun).1)
    obtain ⟨hnumber, -⟩ := hresults.values _ (mem_resultsOf.1 (mem_rowsOf.1 hrow).2).1
    exact ⟨htimestamp, hid, hnumber⟩
  obtain ⟨htimestampA, hidA, hnumberA⟩ := hvalues ha
  obtain ⟨htimestampB, hidB, hnumberB⟩ := hvalues hb
  have hcompare (c : Nat × Field) (hc : c.2.collation = some .binary) (x y : List Value) :
      compareIn .utf8 c x y = compareValues .utf8 .binary (valueIn x c) (valueIn y c) := by
    unfold compareIn
    rw [hc]
    rfl
  rw [hcompare _ hruns.timestampCollation, hcompare _ hruns.idCollation, hcompare _ hresults.numberCollation,
    htimestampA, htimestampB, hidA, hidB, hnumberA, hnumberB, compareValues_text, compareValues_integer,
    compareValues_integer]
  rfl

/-- **The rows of a database file**: if its relations show two tables, they are those of the tables. -/
theorem answerOf_eq (hresults : ShowsResults left resultColumns results resultRow)
    (hruns : ShowsRuns right runColumns runs runRow) :
    answerOf .utf8 left right =
      .ok ⟨namesOf runColumns resultColumns, (rows runs results).map Joined.row⟩ := by
  have hcheck : [runColumns.commit, resultColumns.run, runColumns.id, runColumns.timestamp, resultColumns.number].forM
      checkComparable = .ok () := by
    simp [checkComparable, hruns.idCollation, hruns.commitCollation, hruns.timestampCollation,
      hresults.numberCollation, hresults.runCollation, bind, Except.bind, pure, Except.pure]
  have hpairs := pairs_eq hresults hruns
  have hsorted : ((joined runs results).map fun j => (resultRow (j.resultId, j.result), runRow j.source)).mergeSort
      (fun a b => ((compareIn .utf8 runColumns.timestamp b.2 a.2).then ((compareIn .utf8 runColumns.id b.2 a.2).then
        (compareIn .utf8 resultColumns.number a.1 b.1))).isLE) =
      (rows runs results).map fun j => (resultRow (j.resultId, j.result), runRow j.source) :=
    (List.map_mergeSort fun a ha b hb => congrArg Ordering.isLE (order_pairs hresults hruns ha hb).symm).symm
  have hrow : ∀ j ∈ rows runs results, (⟨valueIn (runRow j.source) runColumns.commit,
      valueIn (resultRow (j.resultId, j.result)) resultColumns.testId,
      valueIn (resultRow (j.resultId, j.result)) resultColumns.testName,
      valueIn (resultRow (j.resultId, j.result)) resultColumns.cycles⟩ : Row) = j.row := by
    intro j hj
    obtain ⟨hrun, hrow⟩ := mem_joined.1 ((List.mergeSort_perm _ _).mem_iff.1 hj)
    obtain ⟨-, -, hcommit, -⟩ := hruns.values j.source (SortedMap.mem_entries.2 (mem_keptRuns.1 hrun).1)
    obtain ⟨-, -, -, htestId, htestName, hcycles⟩ :=
      hresults.values _ (mem_resultsOf.1 (mem_rowsOf.1 hrow).2).1
    rw [hcommit, htestId, htestName, hcycles]
    rfl
  unfold answerOf
  rw [hruns.commit, hresults.testId, hresults.testName, hresults.cycles, hresults.run, hruns.id, hruns.timestamp,
    hresults.number, hresults.rows, hruns.rows]
  simp only [bind, Except.bind, hcheck, pure, Except.pure, Except.mapError]
  unfold keptCondition ownCondition at hpairs
  by_cases hempty : results.entries = []
  · have hnone : rows runs results = [] := by
      unfold rows joined
      rw [hempty]
      exact List.mergeSort_nil
    rw [hnone, hempty, List.map_nil, List.isEmpty_nil, if_pos rfl, List.flatMap_nil, List.mergeSort_nil]
    rfl
  · rw [if_neg (by simpa using hempty), hpairs, hsorted]
    refine congrArg (fun rows => Except.ok (Answer.mk (namesOf runColumns resultColumns) rows)) ?_
    rw [List.map_map]
    exact List.map_congr_left hrow

end CommitCharts.Database
