import CommitCharts.Proofs.Store.Tables

/-!
# CommitCharts.Proofs.Store.Unrelated — rows that no reading sees

Runs without a commit, their results, and results of no run may stand in the tables in any number and with any values.
Two databases that differ in nothing else have the same rows in the same order (`SameKept.rows_eq`), so every reading
gives the same records or the same error (`read_of_sameKept`).
-/

namespace CommitCharts

/-- A list in strict order is known by its members. -/
theorem eq_of_pairwise_of_mem_iff {α : Type} {r : α → α → Prop} (hasymm : ∀ a b, r a b → ¬ r b a) {xs ys : List α}
    (hxs : xs.Pairwise r) (hys : ys.Pairwise r) (h : ∀ x, x ∈ xs ↔ x ∈ ys) : xs = ys := by
  have hnodup {zs : List α} (hzs : zs.Pairwise r) : zs.Nodup := hzs.imp fun {a b} hab he => by
    rw [he] at hab
    exact hasymm b b hab hab
  refine List.Perm.eq_of_pairwise (fun a b _ _ hab hba => absurd hba (hasymm a b hab)) hxs hys ?_
  exact (List.perm_ext_iff_of_nodup (hnodup hxs) (hnodup hys)).2 h

namespace Database

variable {runs runs' : SortedMap Int64 RunRow} {results results' : SortedMap Int64 ResultRow}

/-- The tables have the same runs with a commit and the same results of these runs, all with the same numbers. -/
structure SameKept (runs runs' : SortedMap Int64 RunRow) (results results' : SortedMap Int64 ResultRow) : Prop where
  sameRuns : ∀ id row, row.isKept = true → (runs.get? id = some row ↔ runs'.get? id = some row)
  sameResults : ∀ id row, runs.get? id = some row → row.isKept = true → ∀ number result, result.run = .integer id →
    (results.get? number = some result ↔ results'.get? number = some result)

theorem SameKept.keptRuns_eq (h : SameKept runs runs' results results') : keptRuns runs = keptRuns runs' := by
  refine eq_of_pairwise_of_mem_iff (fun _ _ => Std.OrientedCmp.not_lt_of_lt) (keptRuns_pairwise runs)
    (keptRuns_pairwise runs') fun r => ?_
  rw [mem_keptRuns, mem_keptRuns]
  exact and_congr_left fun hkept => h.sameRuns r.1 r.2 hkept

theorem SameKept.resultsOf_eq (h : SameKept runs runs' results results') {r : Int64 × RunRow} (hr : r ∈ keptRuns runs) :
    resultsOf results r.1 = resultsOf results' r.1 := by
  obtain ⟨hrun, hkept⟩ := mem_keptRuns.1 hr
  refine eq_of_pairwise_of_mem_iff (fun _ _ => Std.OrientedCmp.not_lt_of_lt) (results.ascending.filter _)
    (results'.ascending.filter _) fun e => ?_
  rw [mem_resultsOf, mem_resultsOf, SortedMap.mem_entries, SortedMap.mem_entries]
  exact and_congr_left fun hid => h.sameResults r.1 r.2 hrun hkept e.1 e.2 hid

/-- Tables have the same kept rows if selecting them gives the same lists. -/
theorem sameKept_of_filter (hruns : runs.entries.filter (·.2.isKept) = runs'.entries.filter (·.2.isKept))
    (hresults : ∀ r ∈ runs.entries.filter (·.2.isKept), resultsOf results r.1 = resultsOf results' r.1) :
    SameKept runs runs' results results' where
  sameRuns id row hkept := by
    have hmem := (Iff.of_eq (congrArg ((id, row) ∈ ·) hruns))
    rw [List.mem_filter, List.mem_filter, SortedMap.mem_entries, SortedMap.mem_entries] at hmem
    exact (and_iff_left hkept).symm.trans (hmem.trans (and_iff_left hkept))
  sameResults id row hrun hkept number result hid := by
    have hmem := Iff.of_eq (congrArg ((number, result) ∈ ·)
      (hresults (id, row) (List.mem_filter.2 ⟨SortedMap.mem_entries.2 hrun, hkept⟩)))
    rw [mem_resultsOf, mem_resultsOf, SortedMap.mem_entries, SortedMap.mem_entries] at hmem
    exact (and_iff_left hid).symm.trans (hmem.trans (and_iff_left hid))

/-- **Unrelated rows are not seen**: only the runs with a commit and their results decide about the rows and their
order. -/
theorem SameKept.rows_eq (h : SameKept runs runs' results results') : rows runs results = rows runs' results' := by
  rw [rows_eq_flatMap, rows_eq_flatMap, ← h.keptRuns_eq]
  refine List.flatMap_congr fun r hr => ?_
  unfold rowsOf
  rw [h.resultsOf_eq hr]

end Database

namespace Store

open Database

variable {files files' : Files} {s : Store} {names : Names} {runs runs' : SortedMap Int64 RunRow}
  {results results' : SortedMap Int64 ResultRow}

/-- **Unrelated rows cannot disturb a reading**: at a path with one database or the other, fetches and loads with any
limit, catalog and configuration give the same records, the same series or the same error. -/
theorem read_of_sameKept (hreads : Reads files s names runs results) (hreads' : Reads files' s names runs' results')
    (hsame : SameKept runs runs' results results') :
    (∀ limit, s.fetchRecent files limit = s.fetchRecent files' limit) ∧
    (∀ commits catalog, s.fetchForCommits files commits catalog = s.fetchForCommits files' commits catalog) ∧
    ∀ c catalog, s.load files c catalog = s.load files' c catalog := by
  have hanswer : s.answer? files = s.answer? files' := by
    rw [answer?_of_reads hreads, answer?_of_reads hreads', hsame.rows_eq]
  have hfetch (limit : Nat) : s.fetchRecent files limit = s.fetchRecent files' limit := by
    unfold fetchRecent
    rw [hanswer]
  refine ⟨hfetch, fun commits catalog => hfetch _, fun c catalog => ?_⟩
  unfold load fetchForCommits
  rw [hfetch]

section Littered

/-- Two runs with a result each, the older one with negative cycles, and a result of no run between them. -/
def tidy : Database := Database.applyAll {}
  [.createRuns, .createResults,
    .addRun (some 2) (.text "2026-01-02") (.text "new") [(.integer 1, .text "a", .integer 10)],
    .addResult (.integer 9) (.integer 2) (.text "b") (.integer 20),
    .addRun (some 5) (.text "2026-01-01") (.text "old") [(.integer 1, .text "a", .integer (-1))]]

/-- The same two runs among others without a commit, whose results are no records, and with a result that names no
number of a run. -/
def littered : Database := Database.applyAll {}
  [.createRuns, .createResults,
    .addRun (some 2) (.text "2026-01-02") (.text "new") [(.integer 1, .text "a", .integer 10)],
    .addResult (.text "none") .null .null (.blob [0]),
    .addRun (some 5) (.text "2026-01-01") (.text "old") [(.integer 1, .text "a", .integer (-1))],
    .addRun (some 3) (.text "2026-01-02") .null [(.integer (-7), .null, .null)],
    .addRun (some 8) (.blob [1]) (.text "") [(.integer 1, .text "a", .integer (-2))]]

def tidyRuns : SortedMap Int64 RunRow := (tidy.runs.map Table.rows).getD ∅

def tidyResults : SortedMap Int64 ResultRow := (tidy.results.map Table.rows).getD ∅

def litteredRuns : SortedMap Int64 RunRow := (littered.runs.map Table.rows).getD ∅

def litteredResults : SortedMap Int64 ResultRow := (littered.results.map Table.rows).getD ∅

theorem reads_tidy : Reads (onDisk tidy) diskStore {} tidyRuns tidyResults := reads_onDisk rfl rfl

theorem reads_littered : Reads (onDisk littered) diskStore {} litteredRuns litteredResults := reads_onDisk rfl rfl

theorem sameKept_littered : SameKept tidyRuns litteredRuns tidyResults litteredResults := by
  refine sameKept_of_filter rfl fun r hr => ?_
  have hids : r.1 = 2 ∨ r.1 = 5 := by
    have hall : ∀ r ∈ tidyRuns.entries, r.1 = 2 ∨ r.1 = 5 := by decide +kernel
    exact hall r (List.mem_filter.1 hr).1
  rcases hids with hid | hid <;> rw [hid] <;> rfl

/-- One row can be read from either database, and the negative cycles of the older run are the error of any longer
fetch from either. -/
theorem read_of_sameKept_littered :
    SameKept tidyRuns litteredRuns tidyResults litteredResults ∧
      diskStore.fetchRecent (onDisk littered) 1 = .ok [⟨"new", 1, "a", 10⟩] ∧
      diskStore.fetchRecent (onDisk littered) 9 = .error (.query (.outOfRange (-1) 3)) := by
  have hrows : rows tidyRuns tidyResults = joined tidyRuns tidyResults := rows_eq_joined (by decide +kernel)
  obtain ⟨hfetch, -, -⟩ := read_of_sameKept reads_tidy reads_littered sameKept_littered
  refine ⟨sameKept_littered, ?_, ?_⟩
  · rw [← hfetch, fetchRecent_of_reads reads_tidy (by decide), hrows]
    rfl
  · rw [← hfetch, fetchRecent_of_reads reads_tidy (by decide), hrows]
    rfl

end Littered

end Store

end CommitCharts
