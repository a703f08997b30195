import CommitCharts.Proofs.Database.File
import CommitCharts.Proofs.Database.Measured

/-!
# CommitCharts.Proofs.Store.Tables — the tables that a store reads

A store reads its two tables from a database that was made by changes or from the bytes of a database file
(`Reads`).  Either way its rows are those of the tables, and a fetch turns the first of them into records
(`fetchRecent_of_reads`).
-/

namespace CommitCharts

open Database (Names RunRow ResultRow)

namespace Store

/-- The store reads a table of runs and a table of results: those of a database, or those that a database file shows
under some names. -/
inductive Reads (files : Files) (s : Store) : Names → SortedMap Int64 RunRow → SortedMap Int64 ResultRow → Prop where
  | tables {d : Database} {runs : Database.Table RunRow} {results : Database.Table ResultRow}
      (leads : LeadsTo files s (.database d)) (hasRuns : d.runs = some runs) (hasResults : d.results = some results) :
      Reads files s {} runs.rows results.rows
  | file {bytes : ByteArray} {img : Database.Image} {schema : Database.Schema} {left right : Database.Sql.Relation}
      {resultColumns : Database.ResultColumns} {runColumns : Database.RunColumns}
      {results : SortedMap Int64 ResultRow} {runs : SortedMap Int64 RunRow}
      {resultRow : Int64 × ResultRow → List Database.Value} {runRow : Int64 × RunRow → List Database.Value}
      (leads : LeadsTo files s (.bytes bytes)) (written : Database.Image.isEmptyFile bytes = false)
      (opens : Database.readFile bytes = .ok (img, schema)) (encoding : img.encoding = .utf8)
      (hasResults : schema.lookup img "PerformanceTestResults" ["Id", "RunId", "TestId", "TestName", "Cycles"] =
        .ok left)
      (hasRuns : schema.lookup img "PerformanceTestRuns" ["Id", "RunTimestamp", "GitCommit"] = .ok right)
      (showsResults : Database.ShowsResults left resultColumns results resultRow)
      (showsRuns : Database.ShowsRuns right runColumns runs runRow) :
      Reads files s (Database.namesOf runColumns resultColumns) runs results

variable {files : Files} {s : Store} {names : Names} {runs : SortedMap Int64 RunRow}
  {results : SortedMap Int64 ResultRow}

theorem answer?_of_reads (h : Reads files s names runs results) :
    s.answer? files = .ok ⟨names, (Database.rows runs results).map Database.Joined.row⟩ := by
  cases h with
  | tables leads hasRuns hasResults =>
    rw [answer?_of_leadsTo leads]
    show Database.answer? _ = _
    unfold Database.answer?
    rw [hasResults, hasRuns]
  | file leads written opens encoding hasResults hasRuns showsResults showsRuns =>
    rw [answer?_of_leadsTo leads]
    show Database.fileAnswer? _ = _
    unfold Database.fileAnswer?
    rw [written, opens]
    simp only [bind, Except.bind, Except.mapError, Bool.false_eq_true, if_false, hasResults, hasRuns, encoding]
    exact Database.answerOf_eq showsResults showsRuns

/-- The history of a store is read off the rows of its tables. -/
theorem history?_of_reads (h : Reads files s names runs results) :
    s.history? files = (Database.rows runs results).mapM (Database.Joined.record names) := by
  unfold history?
  rw [answer?_of_reads h]
  exact List.mapM_map

theorem fetchRecent_of_reads (h : Reads files s names runs results) {limit : Nat} (hlimit : 0 < limit) :
    s.fetchRecent files limit =
      (((Database.rows runs results).take limit).mapM (Database.Joined.record names)).mapError .query := by
  have hrecords : (((Database.rows runs results).map Database.Joined.row).take limit).mapM
      (Database.Row.record names) = ((Database.rows runs results).take limit).mapM (Database.Joined.record names) := by
    rw [← List.map_take]
    exact List.mapM_map
  unfold fetchRecent
  rw [if_neg (Nat.ne_of_gt hlimit), answer?_of_reads h, ← hrecords]
  rfl

/-- What is fetched are the records of the first rows. -/
theorem rows_of_fetch (hreads : Reads files s names runs results) {limit : Nat} {records : List Record}
    (h : s.fetchRecent files limit = .ok records) :
    ((Database.rows runs results).take limit).mapM (Database.Joined.record names) = .ok records := by
  rcases Nat.eq_zero_or_pos limit with rfl | hlimit
  · cases h
  · rw [fetchRecent_of_reads hreads hlimit] at h
    cases hrecords : ((Database.rows runs results).take limit).mapM (Database.Joined.record names) with
    | error e =>
      rw [hrecords] at h
      cases h
    | ok records' =>
      rw [hrecords] at h
      cases h
      rfl

theorem reads_onDisk {d : Database} {runs : Database.Table RunRow} {results : Database.Table ResultRow}
    (hruns : d.runs = some runs) (hresults : d.results = some results) :
    Reads (onDisk d) diskStore {} runs.rows results.rows :=
  .tables (leadsTo_onDisk d) hruns hresults

end Store

end CommitCharts
