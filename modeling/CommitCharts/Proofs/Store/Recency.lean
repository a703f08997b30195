import CommitCharts.Proofs.Store.Tables
import CommitCharts.Proofs.Store.Window

/-!
# CommitCharts.Proofs.Store.Recency — charts go from new to old

A commit takes its place in a series at the first row of it that is read.  Rows come from the most recent run on, so
this row is of the most recent run of the commit that has a result (`isNewest_of_first`), wherever its other runs are.
Hence the commits of a series stand in the order of their newest runs (`load_by_recency`).
-/

namespace CommitCharts

namespace Record

/-- The first record of one commit stands before the first record of another. -/
def SightedBefore (records : List Record) (a b : String) : Prop :=
  ∃ p q r, records.map (·.commit) = p ++ a :: (q ++ b :: r) ∧ a ∉ p ∧ b ∉ p ++ a :: q

theorem SightedBefore.append {records : List Record} {a b : String} (h : SightedBefore records a b)
    (later : List Record) : SightedBefore (records ++ later) a b := by
  obtain ⟨p, q, r, hsplit, ha, hb⟩ := h
  refine ⟨p, q, r ++ later.map (·.commit), ?_, ha, hb⟩
  rw [List.map_append, hsplit]
  simp only [List.append_assoc, List.cons_append]

theorem sightings_pairwise (records : List Record) : (sightings records).Pairwise (SightedBefore records) := by
  induction records using List.reverseRecOn with
  | nil => exact .nil
  | append_singleton records r ih =>
    have hearlier := ih.imp fun h => SightedBefore.append h [r]
    rw [sightings_concat]
    split_ifs with hseen
    · exact hearlier
    · refine List.pairwise_append.2 ⟨hearlier, List.pairwise_singleton _ _, fun a ha b hb => ?_⟩
      obtain rfl := List.mem_singleton.1 hb
      obtain ⟨p, q, hsplit, hfirst⟩ := List.eq_append_cons_of_mem (mem_sightings.1 ha)
      refine ⟨p, q, [], ?_, hfirst, hsplit ▸ hseen⟩
      rw [List.map_append, hsplit, List.append_assoc, List.cons_append]
      rfl

end Record

namespace Database

variable {runs : SortedMap Int64 RunRow} {results : SortedMap Int64 ResultRow} {commit : String}

/-- A run of the commit that has a result. -/
structure Measures (runs : SortedMap Int64 RunRow) (results : SortedMap Int64 ResultRow) (commit : String)
    (r : Int64 × RunRow) : Prop where
  listed : runs.get? r.1 = some r.2
  carries : r.2.commit = .text commit
  measured : resultsOf results r.1 ≠ []

/-- The most recent of all runs of the commit that have a result. -/
structure IsNewest (runs : SortedMap Int64 RunRow) (results : SortedMap Int64 ResultRow) (commit : String)
    (r : Int64 × RunRow) : Prop where
  measures : Measures runs results commit r
  newest : ∀ q, Measures runs results commit q → (recency q r).isLE = true

/-- Rows are of runs that have a result. -/
theorem measures_of_mem_rows {j : Joined} (hj : j ∈ rows runs results) (hcommit : j.run.commit = .text commit) :
    Measures runs results commit j.source := by
  obtain ⟨hrun, hrow⟩ := mem_rows.1 hj
  exact ⟨(mem_keptRuns.1 hrun).1, hcommit, List.ne_nil_of_mem (mem_rowsOf.1 hrow).2⟩

/-- A run with a result has a row, if its commit is a name. -/
theorem Measures.exists_row {r : Int64 × RunRow} (h : Measures runs results commit r) (hcommit : commit ≠ "") :
    ∃ j ∈ rows runs results, j.source = r := by
  obtain ⟨e, he⟩ := List.exists_mem_of_ne_nil _ h.measured
  have hkept : r ∈ keptRuns runs := mem_keptRuns.2 ⟨h.listed, (RunRow.isKept_iff h.carries).2 hcommit⟩
  have hrow : (⟨r.1, r.2, e.1, e.2⟩ : Joined) ∈ rowsOf results r := mem_rowsOf.2 ⟨rfl, he⟩
  exact ⟨⟨r.1, r.2, e.1, e.2⟩, mem_rows.2 ⟨hkept, hrow⟩, rfl⟩

/-- A row is of a run at least as recent as the runs of the rows behind it. -/
theorem recency_of_order {a b : Joined} (h : a.order b = .lt) : (recency b.source a.source).isLE = true := by
  rw [Joined.order_eq, Ordering.then_eq_lt] at h
  rcases h with h | ⟨h, -⟩ <;> rw [h] <;> rfl

/-- The first row of a commit is of its newest run. -/
theorem isNewest_of_first {before after : List Joined} {j : Joined} (hrows : rows runs results = before ++ j :: after)
    (hcommit : j.run.commit = .text commit) (hfirst : ∀ k ∈ before, k.run.commit ≠ .text commit) :
    IsNewest runs results commit j.source := by
  have hj : j ∈ rows runs results := by
    rw [hrows]
    exact List.mem_append_right _ (List.mem_cons_self ..)
  refine ⟨measures_of_mem_rows hj hcommit, fun q hq => ?_⟩
  have hname : commit ≠ "" := (RunRow.isKept_iff hcommit).1 (mem_keptRuns.1 (mem_rows.1 hj).1).2
  obtain ⟨k, hk, rfl⟩ := hq.exists_row hname
  rw [hrows] at hk
  rcases List.mem_append.1 hk with hk | hk
  · exact absurd hq.carries (hfirst k hk)
  · rcases List.mem_cons.1 hk with rfl | hk
    · rw [@Std.ReflCmp.compare_self _ recency]
      rfl
    · have hpairwise := rows_pairwise runs results
      rw [hrows] at hpairwise
      exact recency_of_order ((List.pairwise_cons.1 (List.pairwise_append.1 hpairwise).2.1).1 k hk)

/-- Of two commits, the one whose first row comes first has the more recent newest run. -/
theorem recency_of_first_rows {a b : String} {before between after : List Joined} {j k : Joined}
    (hrows : rows runs results = before ++ j :: (between ++ k :: after)) (hj : j.run.commit = .text a)
    (hk : k.run.commit = .text b) (hfirstJ : ∀ x ∈ before, x.run.commit ≠ .text a)
    (hfirstK : ∀ x ∈ before ++ j :: between, x.run.commit ≠ .text b) :
    IsNewest runs results a j.source ∧ IsNewest runs results b k.source ∧ recency k.source j.source = .lt := by
  have hrows' : rows runs results = (before ++ j :: between) ++ k :: after := by
    rw [hrows, List.append_assoc, List.cons_append]
  have hnewestK := isNewest_of_first hrows' hk hfirstK
  have horder : j.order k = .lt := by
    have hpairwise := rows_pairwise runs results
    rw [hrows'] at hpairwise
    exact (List.pairwise_append.1 hpairwise).2.2 j (List.mem_append_right _ (List.mem_cons_self ..)) k
      (List.mem_cons_self ..)
  refine ⟨isNewest_of_first hrows hj hfirstJ, hnewestK, ?_⟩
  rw [Joined.order_eq, Ordering.then_eq_lt] at horder
  rcases horder with hlt | ⟨heq, -⟩
  · exact hlt
  · -- equally recent rows are of one run, which has one commit
    have hid : k.runId = j.runId := eq_of_recency_eq heq
    have hrun : runs.get? j.runId = some k.run := hid ▸ hnewestK.measures.listed
    have hj' : runs.get? j.runId = some j.run := (isNewest_of_first hrows hj hfirstJ).measures.listed
    rw [hrun] at hj'
    have hcommit : j.run.commit = .text b := Option.some.inj hj' ▸ hk
    exact absurd hcommit (hfirstK j (List.mem_append_right _ (List.mem_cons_self ..)))

end Database

namespace Store

open Database

variable {files : Files} {s : Store} {names : Names} {runs : SortedMap Int64 RunRow}
  {results : SortedMap Int64 ResultRow} {c : Config} {catalog : Catalog}

theorem load_eq_some {count : Nat} {series : Series} (h : s.load files c catalog = .ok (some (count, series))) :
    ∃ records, s.fetchForCommits files c.maxCommits.toNat catalog = .ok records ∧
      series = Series.organize records catalog c.maxCommits.toNat := by
  obtain ⟨records, hfetch, hloaded⟩ := load_eq_ok_iff.1 h
  exact ⟨records, hfetch, loaded_eq_some hloaded⟩

/-- **Charts go from new to old**: a commit stands before another in a series only if its newest run is more recent
than that of the other, among all runs of the store that have a result. -/
theorem load_by_recency (hreads : Reads files s names runs results) {count : Nat} {series : Series}
    (hload : s.load files c catalog = .ok (some (count, series))) :
    series.commits.Pairwise fun a b =>
      ∃ r q, IsNewest runs results a r ∧ IsNewest runs results b q ∧ recency q r = .lt := by
  obtain ⟨records, hfetch, rfl⟩ := load_eq_some hload
  have hrecords := rows_of_fetch hreads hfetch
  have hsublist : (Series.organize records catalog c.maxCommits.toNat).commits.Sublist (Record.sightings records) := by
    rw [Series.commits_organize]
    exact (List.take_sublist _ _).trans (List.filter_sublist)
  refine ((Record.sightings_pairwise records).sublist hsublist).imp fun {a b} hbefore => ?_
  obtain ⟨p, q, r, hsplit, ha, hb⟩ := hbefore
  have hcommits := map_commit_of_records hrecords
  rw [hsplit, List.map_append, List.map_cons, List.map_append, List.map_cons] at hcommits
  obtain ⟨before, rest, hrows, hbefore, hrest⟩ := List.map_eq_append_iff.1 hcommits
  obtain ⟨j, rest, rfl, hj, hrest⟩ := List.map_eq_cons_iff.1 hrest
  obtain ⟨between, rest, rfl, hbetween, hrest⟩ := List.map_eq_append_iff.1 hrest
  obtain ⟨k, after, rfl, hk, -⟩ := List.map_eq_cons_iff.1 hrest
  -- the rows that were not fetched stand behind those that were
  have hall := (List.take_append_drop (recordLimit c.maxCommits.toNat catalog.size) (rows runs results)).symm
  rw [hrows, List.append_assoc, List.cons_append, List.append_assoc, List.cons_append] at hall
  have hfirst {front : List Joined} {commits : List String} (h : front.map (·.run.commit) = commits.map .text)
      {commit : String} (hnew : commit ∉ commits) : ∀ x ∈ front, x.run.commit ≠ .text commit := by
    intro x hx hcommit
    have hmem : TextCell.text commit ∈ commits.map TextCell.text := by
      rw [← h, ← hcommit]
      exact List.mem_map_of_mem hx
    obtain ⟨d, hd, hde⟩ := List.mem_map.1 hmem
    exact hnew (TextCell.text.inj hde ▸ hd)
  have hboth : (before ++ j :: between).map (·.run.commit) = (p ++ a :: q).map .text := by
    rw [List.map_append, List.map_cons, hbefore, hj, hbetween, List.map_append, List.map_cons]
  exact ⟨j.source, k.source, recency_of_first_rows hall hj hk (hfirst hbefore ha) (hfirst hboth hb)⟩

section Spread

/-- One commit was measured in two parts, before and after another one. -/
def spread : Database := Database.applyAll {}
  [.createRuns, .createResults,
    .addRun none (.text "2026-01-03") (.text "parted") [(.integer 2, .text "b", .integer 22)],
    .addRun none (.text "2026-01-02") (.text "whole")
      [(.integer 1, .text "a", .integer 10), (.integer 2, .text "b", .integer 20)],
    .addRun none (.text "2026-01-01") (.text "parted") [(.integer 1, .text "a", .integer 11)]]

def spreadRuns : SortedMap Int64 RunRow := (spread.runs.map Table.rows).getD ∅

def spreadResults : SortedMap Int64 ResultRow := (spread.results.map Table.rows).getD ∅

theorem reads_spread : Reads (onDisk spread) diskStore {} spreadRuns spreadResults := reads_onDisk rfl rfl

def spreadSeries : Series :=
  Series.organize
    [⟨"parted", 2, "b", 22⟩, ⟨"whole", 1, "a", 10⟩, ⟨"whole", 2, "b", 20⟩, ⟨"parted", 1, "a", 11⟩] twoTests 2

theorem load_spread : diskStore.load (onDisk spread) { maxCommits := 2 } twoTests = .ok (some (4, spreadSeries)) := by
  have hhistory : diskStore.history? (onDisk spread) =
      .ok [⟨"parted", 2, "b", 22⟩, ⟨"whole", 1, "a", 10⟩, ⟨"whole", 2, "b", 20⟩, ⟨"parted", 1, "a", 11⟩] := by
    rw [history?_of_reads reads_spread, rows_eq_joined (by decide +kernel)]
    rfl
  exact load_of_history hhistory (by decide) (by decide)

/-- The parted commit comes first: the newer of its runs is the most recent one. -/
theorem load_by_recency_spread :
    Reads (onDisk spread) diskStore {} spreadRuns spreadResults ∧
      diskStore.load (onDisk spread) { maxCommits := 2 } twoTests = .ok (some (4, spreadSeries)) ∧
      ∃ r q, IsNewest spreadRuns spreadResults "parted" r ∧ IsNewest spreadRuns spreadResults "whole" q ∧
        recency q r = .lt := by
  have hordered := load_by_recency reads_spread load_spread
  have hcommits : spreadSeries.commits = ["parted", "whole"] := by decide +kernel
  rw [hcommits] at hordered
  exact ⟨reads_spread, load_spread, (List.pairwise_cons.1 hordered).1 "whole" (List.mem_singleton_self _)⟩

end Spread

end Store

end CommitCharts
