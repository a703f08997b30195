import CommitCharts.Proofs.Database.NewRun
import CommitCharts.Proofs.Store.Tables
import CommitCharts.Proofs.Store.Window

/-!
# CommitCharts.Proofs.Store.NewRun — a chart after one more run

A new complete run puts a block in front of the records.  A reading for one more commit takes the block and then what
a reading took before, whatever that was (`fetchForCommits_of_adds`), so the new commit is shown first and all others
as before (`shift_of_adds`).
-/

namespace CommitCharts.Store

open Database

variable {files files' : Files} {s s' : Store} {names : Names} {runs runs' : SortedMap Int64 RunRow}
  {results results' : SortedMap Int64 ResultRow} {r : Int64 × RunRow} {commit : String} {catalog : Catalog}
  {block : List Record} {n : Nat}

/-- Rows of a complete run in front of others are read as its block in front of the others' records. -/
theorem mapM_record_of_complete (hcomplete : CompleteRun names results catalog r block) (rows : List Joined) :
    (rowsOf results r ++ rows).mapM (Joined.record names) = (rows.mapM (Joined.record names)).map (block ++ ·) := by
  rw [List.mapM_append, hcomplete.read]
  cases rows.mapM (Joined.record names) <;> rfl

theorem fetchForCommits_of_reads (hreads : Reads files s names runs results) (hids : catalog.ids ≠ []) (hn : 0 < n)
    (hlimit : n * catalog.size ≤ UInt32.size - 1) :
    s.fetchForCommits files n catalog =
      (((rows runs results).take (n * catalog.size)).mapM (Joined.record names)).mapError .query := by
  have hsize : 0 < catalog.size := Catalog.size_pos_iff.2 hids
  unfold fetchForCommits
  rw [recordLimit_eq, Nat.min_eq_left hlimit]
  exact fetchRecent_of_reads hreads (Nat.mul_pos hn hsize)

/-- A reading for one more commit gives the records of the new run and then those of the reading before. -/
theorem fetchForCommits_of_adds (hreads : Reads files s names runs results)
    (hreads' : Reads files' s' names runs' results') (hadds : Adds runs runs' results results' r)
    (hnewest : ∀ q ∈ keptRuns runs, recency q r = .lt) (hkept : r.2.isKept = true)
    (hcomplete : CompleteRun names results' catalog r block) (hids : catalog.ids ≠ []) (hn : 0 < n)
    (hlimit : (n + 1) * catalog.size ≤ UInt32.size - 1) :
    s'.fetchForCommits files' (n + 1) catalog = (s.fetchForCommits files n catalog).map (block ++ ·) := by
  have hless : n * catalog.size ≤ UInt32.size - 1 := Nat.le_trans (Nat.mul_le_mul_right _ (Nat.le_succ n)) hlimit
  have hcount : (n + 1) * catalog.size = (rowsOf results' r).length + n * catalog.size := by
    rw [hcomplete.length_rowsOf, Nat.succ_mul, Nat.add_comm]
  rw [fetchForCommits_of_reads hreads hids hn hless, fetchForCommits_of_reads hreads' hids (Nat.succ_pos n) hlimit,
    hadds.rows_eq hkept hnewest, hcount, List.take_length_add_append, mapM_record_of_complete hcomplete]
  cases ((rows runs results).take (n * catalog.size)).mapM (Joined.record names) <;> rfl

/-- Records that were read are of the commits of their rows. -/
theorem commits_of_fetch (hreads : Reads files s names runs results)
    (hlimit : n * catalog.size ≤ UInt32.size - 1) {records : List Record}
    (hfetch : s.fetchForCommits files n catalog = .ok records) :
    ((rows runs results).take (n * catalog.size)).map (·.run.commit) = (records.map (·.commit)).map .text := by
  have hrecords : ((rows runs results).take (n * catalog.size)).mapM (Joined.record names) = .ok records := by
    unfold fetchForCommits at hfetch
    rw [recordLimit_eq, Nat.min_eq_left hlimit] at hfetch
    exact rows_of_fetch hreads hfetch
  exact map_commit_of_records hrecords

/-- **A new run shifts the chart by one**: a reading for one more commit gives the records of the new run and then
what was read before, or fails as it did before.  The commit of the new run is shown first with the cycles of the run,
and the commits shown before follow with the frames they had. -/
theorem shift_of_adds (hreads : Reads files s names runs results) (hreads' : Reads files' s' names runs' results')
    (hadds : Adds runs runs' results results' r) (hnewest : ∀ q ∈ keptRuns runs, recency q r = .lt)
    (hcommit : r.2.commit = .text commit) (hname : commit ≠ "")
    (hcomplete : CompleteRun names results' catalog r block) (hids : catalog.ids ≠ []) (hnodup : catalog.ids.Nodup)
    (hn : 1 ≤ n) (hlimit : (n + 1) * catalog.size ≤ UInt32.size - 1)
    (hnew : ∀ j ∈ (rows runs results).take (n * catalog.size), j.run.commit ≠ .text commit) :
    s'.fetchForCommits files' (n + 1) catalog = (s.fetchForCommits files n catalog).map (block ++ ·) ∧
    ∀ old, s.fetchForCommits files n catalog = .ok old →
      (Series.organize (block ++ old) catalog (n + 1)).commits = commit :: (Series.organize old catalog n).commits ∧
      (∀ other ∈ (Series.organize old catalog n).commits,
        (Series.organize (block ++ old) catalog (n + 1)).frame? other = (Series.organize old catalog n).frame? other) ∧
      ∀ id cycles, ((Series.organize (block ++ old) catalog (n + 1)).frame commit).get? id = some cycles ↔
        ∃ x ∈ block, x.testId = id ∧ x.cycles = cycles := by
  have hkept : r.2.isKept = true := (RunRow.isKept_iff hcommit).2 hname
  refine ⟨fetchForCommits_of_adds hreads hreads' hadds hnewest hkept hcomplete hids hn hlimit, fun old hfetch => ?_⟩
  have hblock := hcomplete.isBlock hcommit
  have hless : n * catalog.size ≤ UInt32.size - 1 := Nat.le_trans (Nat.mul_le_mul_right _ (Nat.le_succ n)) hlimit
  have hold : commit ∉ old.map (·.commit) := by
    intro hmem
    have hrows : TextCell.text commit ∈ ((rows runs results).take (n * catalog.size)).map (·.run.commit) := by
      rw [commits_of_fetch hreads hless hfetch]
      exact List.mem_map_of_mem hmem
    obtain ⟨j, hj, hj'⟩ := List.mem_map.1 hrows
    exact hnew j hj hj'
  refine ⟨Series.commits_organize_block hblock hids hnodup hold, fun other hother => ?_,
    Series.get?_frame_organize_block hblock hnodup hold⟩
  refine Series.frame?_organize_block_of_ne hblock.ofCommit ?_
  rintro rfl
  rw [Series.commits_organize] at hother
  exact hold (Record.mem_sightings.1 (List.mem_filter.1 (List.mem_of_mem_take hother)).1)

section Remeasured

/-- One commit was measured twice, the first time in part; between its runs stands a test that is not charted. -/
def remeasured : Database := Database.applyAll {}
  [.createRuns, .createResults,
    .addRun none (.text "2026-01-03") (.text "twice")
      [(.integer 1, .text "a", .integer 21), (.integer 2, .text "b", .integer 22)],
    .addRun none (.text "2026-01-02") (.text "other") [(.integer 9, .text "c", .integer 5)],
    .addRun none (.text "2026-01-01") (.text "twice") [(.integer 1, .text "a", .integer 11)]]

def remeasuredRuns : SortedMap Int64 RunRow := (remeasured.runs.map Table.rows).getD ∅

def remeasuredResults : SortedMap Int64 ResultRow := (remeasured.results.map Table.rows).getD ∅

def remeasuredRecords : List Record :=
  [⟨"twice", 1, "a", 21⟩, ⟨"twice", 2, "b", 22⟩, ⟨"other", 9, "c", 5⟩, ⟨"twice", 1, "a", 11⟩]

/-- The same database after one more run. -/
def extended : Database := remeasured.apply
  (.addRun none (.text "2026-01-04") (.text "new")
    [(.integer 2, .text "b", .integer 32), (.integer 1, .text "a", .integer 31)])

def extendedRuns : SortedMap Int64 RunRow := (extended.runs.map Table.rows).getD ∅

def extendedResults : SortedMap Int64 ResultRow := (extended.results.map Table.rows).getD ∅

def newRun : Int64 × RunRow := (4, ⟨.text "2026-01-04", .text "new"⟩)

def newRecords : List Record := [⟨"new", 2, "b", 32⟩, ⟨"new", 1, "a", 31⟩]

theorem reads_remeasured : Reads (onDisk remeasured) diskStore {} remeasuredRuns remeasuredResults :=
  reads_onDisk rfl rfl

theorem reads_extended : Reads (onDisk extended) diskStore {} extendedRuns extendedResults := reads_onDisk rfl rfl

theorem rows_remeasured : rows remeasuredRuns remeasuredResults = joined remeasuredRuns remeasuredResults :=
  rows_eq_joined (by decide +kernel)

theorem history?_remeasured : diskStore.history? (onDisk remeasured) = .ok remeasuredRecords := by
  rw [history?_of_reads reads_remeasured, rows_remeasured]
  rfl

theorem adds_newRun : Adds remeasuredRuns extendedRuns remeasuredResults extendedResults newRun := by
  have hruns : remeasured.runs = some (remeasured.runs.getD {}) := rfl
  have hresults : remeasured.results = some (remeasured.results.getD {}) := rfl
  have hroom : (remeasured.results.getD {}).HasRoom 2 := by
    refine ⟨fun id hid => ?_, by decide⟩
    obtain ⟨row, hrow⟩ := Option.isSome_iff_exists.1 hid
    have hall : ∀ e ∈ (remeasured.results.getD {}).rows.entries, e.1 ≤ (remeasured.results.getD {}).lastId := by
      decide +kernel
    exact hall (id, row) (SortedMap.mem_entries.2 hrow)
  obtain ⟨runs', results', hruns, hresults, hadds⟩ := adds_addRun hruns hresults none (.text "2026-01-04") (.text "new")
    [(.integer 2, .text "b", .integer 32), (.integer 1, .text "a", .integer 31)] (by rfl) hroom
  have hruns' : extendedRuns = runs'.rows := by
    unfold extendedRuns extended
    rw [hruns]
    rfl
  have hresults' : extendedResults = results'.rows := by
    unfold extendedResults extended
    rw [hresults]
    rfl
  rw [hruns', hresults']
  exact hadds

theorem newest_newRun : ∀ q ∈ keptRuns remeasuredRuns, recency q newRun = .lt := by
  intro q hq
  have hall : ∀ q ∈ remeasuredRuns.entries, recency q newRun = .lt := by decide +kernel
  exact hall q (SortedMap.mem_entries.2 (mem_keptRuns.1 hq).1)

theorem complete_newRun : CompleteRun {} extendedResults twoTests newRun newRecords := ⟨by rfl, .swap _ _ _⟩

/-- The commit that was measured twice has the same frame as before, and the new one stands in front of it. -/
theorem shift_of_adds_remeasured :
    Adds remeasuredRuns extendedRuns remeasuredResults extendedResults newRun ∧
      CompleteRun {} extendedResults twoTests newRun newRecords ∧
      diskStore.fetchForCommits (onDisk extended) 3 twoTests = .ok (newRecords ++ remeasuredRecords) ∧
      (Series.organize (newRecords ++ remeasuredRecords) twoTests 3).commits = ["new", "twice"] ∧
      (Series.organize (newRecords ++ remeasuredRecords) twoTests 3).frame? "twice" =
        (Series.organize remeasuredRecords twoTests 2).frame? "twice" := by
  have hnew : ∀ j ∈ (rows remeasuredRuns remeasuredResults).take (2 * twoTests.size), j.run.commit ≠ .text "new" := by
    rw [rows_remeasured]
    decide +kernel
  obtain ⟨hfetch, hseries⟩ := shift_of_adds (n := 2) reads_remeasured reads_extended adds_newRun newest_newRun rfl
    (by decide) complete_newRun (by decide) (by decide) (by decide) (by decide) hnew
  have hbefore : diskStore.fetchForCommits (onDisk remeasured) 2 twoTests = .ok remeasuredRecords :=
    fetchRecent_of_history history?_remeasured (by decide)
  obtain ⟨hcommits, hframes, -⟩ := hseries remeasuredRecords hbefore
  have hshown : (Series.organize remeasuredRecords twoTests 2).commits = ["twice"] := by decide +kernel
  rw [hbefore] at hfetch
  rw [hshown] at hcommits hframes
  exact ⟨adds_newRun, complete_newRun, hfetch, hcommits, hframes "twice" (List.mem_singleton_self _)⟩

end Remeasured

end CommitCharts.Store
