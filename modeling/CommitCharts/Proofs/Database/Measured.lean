import CommitCharts.Proofs.Database.Recency
import CommitCharts.Proofs.Database.Record
import CommitCharts.Proofs.Series.Block
import CommitCharts.Proofs.Store.History

/-!
# CommitCharts.Proofs.Database.Measured — the records of a run

Every record of a run has the commit of the run (`map_commit_of_records`).  A run is complete when its rows are records
and there is one for each test of the catalog; its records are then a block of its commit (`CompleteRun.exists_block`).
-/

namespace CommitCharts

namespace Database

/-- The record of a row of a run. -/
def Joined.record (names : Names) (j : Joined) : Except QueryError Record := j.row.record names

theorem Joined.commit_of_record {names : Names} {j : Joined} {r : Record} (h : j.record names = .ok r) :
    j.run.commit = .text r.commit :=
  TextCell.toValue_eq_text_iff.1 (Row.record_eq_ok_iff.1 h).commit

/-- Every record was read off a row. -/
theorem exists_row_of_mem {names : Names} {rows : List Joined} {records : List Record}
    (h : rows.mapM (Joined.record names) = .ok records) {x : Record} (hx : x ∈ records) :
    ∃ j ∈ rows, j.record names = .ok x := by
  replace h := mapM_eq_ok_iff.1 h
  induction h with
  | nil => cases hx
  | cons hrow _ ih =>
    rcases List.mem_cons.1 hx with rfl | hx
    · exact ⟨_, List.mem_cons_self .., hrow⟩
    · obtain ⟨j, hj, hjx⟩ := ih hx
      exact ⟨j, List.mem_cons_of_mem _ hj, hjx⟩

theorem map_commit_of_records {names : Names} {rows : List Joined} {records : List Record}
    (h : rows.mapM (Joined.record names) = .ok records) :
    rows.map (·.run.commit) = (records.map (·.commit)).map .text := by
  replace h := mapM_eq_ok_iff.1 h
  induction h with
  | nil => rfl
  | cons hrow _ ih => rw [List.map_cons, List.map_cons, List.map_cons, Joined.commit_of_record hrow, ih]

/-- The rows of a run are records, one for each test of the catalog. -/
structure CompleteRun (names : Names) (results : SortedMap Int64 ResultRow) (catalog : Catalog)
    (r : Int64 × RunRow) (block : List Record) : Prop where
  read : (rowsOf results r).mapM (Joined.record names) = .ok block
  tests : (block.map (·.testId)).Perm catalog.ids

variable {names : Names} {results : SortedMap Int64 ResultRow} {catalog : Catalog} {r : Int64 × RunRow}
  {block : List Record}

theorem CompleteRun.length_rowsOf (h : CompleteRun names results catalog r block) :
    (rowsOf results r).length = catalog.size :=
  (mapM_eq_ok_iff.1 h.read).length_eq.trans (Record.length_of_tests h.tests)

theorem CompleteRun.commit_of_mem (h : CompleteRun names results catalog r block) {x : Record} (hx : x ∈ block) :
    r.2.commit = .text x.commit := by
  obtain ⟨j, hj, hjx⟩ := exists_row_of_mem h.read hx
  rw [← Joined.commit_of_record hjx, ← (mem_rowsOf.1 hj).1]
  rfl

theorem CompleteRun.isBlock (h : CompleteRun names results catalog r block) {commit : String}
    (hcommit : r.2.commit = .text commit) : Record.IsBlock catalog commit block :=
  ⟨fun _ hx => TextCell.text.inj ((h.commit_of_mem hx).symm.trans hcommit), h.tests⟩

theorem CompleteRun.exists_block (h : CompleteRun names results catalog r block) (hids : catalog.ids ≠ []) :
    ∃ commit, r.2.commit = .text commit ∧ Record.IsBlock catalog commit block := by
  have hne : block ≠ [] := by
    rintro rfl
    exact hids h.tests.symm.eq_nil
  obtain ⟨x, hx⟩ := List.exists_mem_of_ne_nil _ hne
  exact ⟨x.commit, h.commit_of_mem hx, h.isBlock (h.commit_of_mem hx)⟩

end Database

end CommitCharts
