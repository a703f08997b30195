import CommitCharts.Proofs.Store.NewRun

/-!
# CommitCharts.Proofs.Store.Slide — the window moves with every new run

A reading has a fixed limit, so the records of a new run push as many old ones out at the end of the window.  Of several
records of one test at one commit the last one in the window counts.  When it is pushed out, an earlier one takes its
place, and the cycles that are shown for an old commit change (`load_changes_value`).  They change in no other way
(`load_of_adds`).
-/

namespace CommitCharts

namespace Record

variable {records block : List Record} {commit other : String} {id : TestId} {limit count : Nat}

/-- The last record among the first ones, looked for in two parts. -/
theorem latest?_take (records : List Record) (other : String) (id : TestId) (limit count : Nat) :
    latest? (records.take limit) other id =
      (latest? ((records.take limit).drop (limit - count)) other id).or
        (latest? (records.take (limit - count)) other id) := by
  have hsplit : records.take limit = records.take (limit - count) ++ (records.take limit).drop (limit - count) := by
    have hfirst : (records.take limit).take (limit - count) = records.take (limit - count) := by
      rw [List.take_take, Nat.min_eq_left (Nat.sub_le _ _)]
    rw [← hfirst, List.take_append_drop]
  conv_lhs => rw [hsplit, latest?_append]

/-- What a window tells of a commit is told by the records that are pushed out of it, or else by the window after
records of another commit came in front. -/
theorem latest?_take_append (hblock : ∀ r ∈ block, r.commit = commit) (hother : other ≠ commit) :
    latest? (records.take limit) other id =
      (latest? ((records.take limit).drop (limit - block.length)) other id).or
        (latest? ((block ++ records).take limit) other id) := by
  have hwindow : (block ++ records).take limit = block.take limit ++ records.take (limit - block.length) :=
    List.take_append
  rw [latest?_take, hwindow, latest?_append_of_ne (fun r hr => hblock r (List.mem_of_mem_take hr)) hother]

end Record

namespace Store

open Database

variable {files files' : Files} {s s' : Store} {names : Names} {runs runs' : SortedMap Int64 RunRow}
  {results results' : SortedMap Int64 ResultRow} {r : Int64 × RunRow} {commit : String} {catalog : Catalog}
  {block records : List Record} {c : Config}

/-- The records that a new run pushes out of a reading: the last ones of the window, one for each test. -/
def pushedOut (records : List Record) (catalog : Catalog) (commits : Nat) : List Record :=
  (window records catalog commits).drop (min (commits * catalog.size) (UInt32.size - 1) - catalog.size)

/-- The history after a new run has its block in front, unless the run has no name and does not count. -/
theorem history?_of_adds (hreads : Reads files s names runs results)
    (hreads' : Reads files' s' names runs' results') (hadds : Adds runs runs' results results' r)
    (hnewest : ∀ q ∈ keptRuns runs, recency q r = .lt) (hcomplete : CompleteRun names results' catalog r block)
    (hhistory : s.history? files = .ok records) :
    s'.history? files' = .ok (if r.2.isKept then block ++ records else records) := by
  rw [history?_of_reads hreads] at hhistory
  rw [history?_of_reads hreads']
  by_cases hkept : r.2.isKept = true
  · rw [hadds.rows_eq hkept hnewest, mapM_record_of_complete hcomplete, hhistory, if_pos hkept]
    rfl
  · rw [hadds.rows_eq_of_unnamed (Bool.eq_false_iff.2 hkept), hhistory, if_neg hkept]

/-- Every commit of a history is the commit of a run. -/
theorem exists_run_of_history (hreads : Reads files s names runs results) (hhistory : s.history? files = .ok records)
    {other : String} (hother : other ∈ records.map (·.commit)) :
    ∃ id run, runs.get? id = some run ∧ run.commit = .text other := by
  rw [history?_of_reads hreads] at hhistory
  obtain ⟨x, hx, rfl⟩ := List.mem_map.1 hother
  obtain ⟨j, hj, hjx⟩ := exists_row_of_mem hhistory hx
  exact ⟨j.runId, j.run, (mem_keptRuns.1 (mem_rows.1 hj).1).1, Joined.commit_of_record hjx⟩

/-- The windows before and after a new run tell the same of an old commit, up to the records pushed out. -/
theorem latest?_window_of_adds (hreads : Reads files s names runs results) (hcommit : r.2.commit = .text commit)
    (hcomplete : CompleteRun names results' catalog r block) (hhistory : s.history? files = .ok records)
    (habsent : ∀ id run, runs.get? id = some run → run.commit ≠ .text commit) {other : String}
    (hother : other ∈ records.map (·.commit)) (n : Nat) (id : TestId) :
    Record.latest? (window records catalog n) other id =
      (Record.latest? (pushedOut records catalog n) other id).or
        (Record.latest? (window (if r.2.isKept then block ++ records else records) catalog n) other id) := by
  have hblock := hcomplete.isBlock hcommit
  unfold pushedOut window
  by_cases hkept : r.2.isKept = true
  · have hne : other ≠ commit := by
      rintro rfl
      obtain ⟨id, run, hrun, hcommit'⟩ := exists_run_of_history hreads hhistory hother
      exact habsent id run hrun hcommit'
    rw [if_pos hkept, ← hblock.length]
    exact Record.latest?_take_append hblock.ofCommit hne
  · rw [if_neg hkept, Record.latest?_take records other id _ catalog.size, ← Option.or_assoc, Option.or_self]

/-- **What a new run changes**: a reading succeeds before and after a new run came.  A commit that is shown both times
keeps the cycles of every test of which no record at the commit is pushed out of the window.  Of any other test it had
the cycles of the last record that is pushed out. -/
theorem load_of_adds (hreads : Reads files s names runs results) (hreads' : Reads files' s' names runs' results')
    (hadds : Adds runs runs' results results' r) (hnewest : ∀ q ∈ keptRuns runs, recency q r = .lt)
    (hcommit : r.2.commit = .text commit)
    (habsent : ∀ id run, runs.get? id = some run → run.commit ≠ .text commit)
    (hcomplete : CompleteRun names results' catalog r block) (hhistory : s.history? files = .ok records)
    (hids : catalog.ids ≠ []) (hcommits : 1 ≤ c.maxCommits.toNat) :
    ∃ before after, s.load files c catalog = .ok before ∧ s'.load files' c catalog = .ok after ∧
      ∀ count series count' series', before = some (count, series) → after = some (count', series') →
        ∀ other ∈ series.commits, other ∈ series'.commits → ∀ id ∈ catalog.ids,
          ((∀ x ∈ pushedOut records catalog c.maxCommits.toNat, x.commit = other → x.testId ≠ id) →
            series.value other id = series'.value other id) ∧
          ∀ cycles, Record.latest? (pushedOut records catalog c.maxCommits.toNat) other id = some cycles →
            series.value other id = cycles := by
  have hsize : 0 < catalog.size := Catalog.size_pos_iff.2 hids
  have hhistory' := history?_of_adds hreads hreads' hadds hnewest hcomplete hhistory
  refine ⟨_, _, load_of_history hhistory hcommits hsize, load_of_history hhistory' hcommits hsize, ?_⟩
  intro count series count' series' hbefore hafter other hother _ id hid
  rw [recordLimit_eq] at hbefore hafter
  obtain rfl := loaded_eq_some hbefore
  obtain rfl := loaded_eq_some hafter
  have hseen : other ∈ records.map (·.commit) := by
    rw [Series.commits_organize] at hother
    have hsighted := (List.mem_filter.1 (List.mem_of_mem_take hother)).1
    exact (List.take_sublist _ records).map _ |>.subset (Record.mem_sightings.1 hsighted)
  have hlatest := latest?_window_of_adds hreads hcommit hcomplete hhistory habsent hseen c.maxCommits.toNat id
  unfold window at hlatest
  rw [Series.value_organize hid, Series.value_organize hid, hlatest]
  constructor
  · intro hstays
    have hnone : Record.latest? (pushedOut records catalog c.maxCommits.toNat) other id = none := by
      rw [← Option.not_isSome_iff_eq_none, Record.isSome_latest?]
      rintro ⟨x, hx, hcommit, hid⟩
      exact hstays x hx hcommit hid
    rw [hnone, Option.none_or]
  · intro cycles hcycles
    rw [hcycles]
    rfl

section Remeasured

theorem absent_newRun : ∀ id run, remeasuredRuns.get? id = some run → run.commit ≠ .text "new" := by
  intro id run hrun
  have hall : ∀ e ∈ remeasuredRuns.entries, e.2.commit ≠ .text "new" := by decide +kernel
  exact hall (id, run) (SortedMap.mem_entries.2 hrun)

theorem history?_extended : diskStore.history? (onDisk extended) = .ok (newRecords ++ remeasuredRecords) :=
  history?_of_adds reads_remeasured reads_extended adds_newRun newest_newRun complete_newRun history?_remeasured

def remeasuredSeries : Series := Series.organize remeasuredRecords twoTests 2

def extendedSeries : Series := Series.organize (newRecords ++ remeasuredRecords.take 2) twoTests 2

theorem load_remeasured :
    diskStore.load (onDisk remeasured) { maxCommits := 2 } twoTests = .ok (some (4, remeasuredSeries)) :=
  load_of_history history?_remeasured (by decide) (by decide)

theorem load_extended :
    diskStore.load (onDisk extended) { maxCommits := 2 } twoTests = .ok (some (4, extendedSeries)) :=
  load_of_history history?_extended (by decide) (by decide)

/-- The older run of the commit is pushed out.  Its one test had the cycles of that run; the other test keeps its
own. -/
theorem load_of_adds_remeasured :
    Adds remeasuredRuns extendedRuns remeasuredResults extendedResults newRun ∧
      CompleteRun {} extendedResults twoTests newRun newRecords ∧
      diskStore.history? (onDisk remeasured) = .ok remeasuredRecords ∧
      remeasuredSeries.value "twice" 1 = 11 ∧
      remeasuredSeries.value "twice" 2 = extendedSeries.value "twice" 2 := by
  obtain ⟨before, after, hbefore, hafter, hvalues⟩ :=
    load_of_adds (c := { maxCommits := 2 }) reads_remeasured reads_extended adds_newRun newest_newRun rfl absent_newRun
      complete_newRun history?_remeasured (by decide) (by decide)
  rw [load_remeasured] at hbefore
  rw [load_extended] at hafter
  have hshown : "twice" ∈ remeasuredSeries.commits ∧ "twice" ∈ extendedSeries.commits := by decide +kernel
  have hvalues := hvalues 4 remeasuredSeries 4 extendedSeries (Except.ok.inj hbefore).symm (Except.ok.inj hafter).symm
    "twice" hshown.1 hshown.2
  refine ⟨adds_newRun, complete_newRun, history?_remeasured, ?_, ?_⟩
  · exact (hvalues 1 (by decide)).2 11 (by decide +kernel)
  · exact (hvalues 2 (by decide)).1 (by decide +kernel)

/-- The cycles shown for an old commit do change: its first test had eleven of them, and after the new run it has
twenty-one. -/
theorem load_changes_value :
    ¬ ∀ (files files' : Files) (s s' : Store) (names : Names) (runs runs' : SortedMap Int64 RunRow)
      (results results' : SortedMap Int64 ResultRow) (r : Int64 × RunRow) (commit : String) (catalog : Catalog)
      (block records : List Record) (c : Config),
      Reads files s names runs results → Reads files' s' names runs' results' →
      Adds runs runs' results results' r → (∀ q ∈ keptRuns runs, recency q r = .lt) → r.2.commit = .text commit →
      (∀ id run, runs.get? id = some run → run.commit ≠ .text commit) → CompleteRun names results' catalog r block →
      s.history? files = .ok records → catalog.ids ≠ [] → catalog.ids.Nodup → 1 ≤ c.maxCommits.toNat →
      ∀ count series count' series', s.load files c catalog = .ok (some (count, series)) →
        s'.load files' c catalog = .ok (some (count', series')) →
        ∀ other ∈ series.commits, other ∈ series'.commits → ∀ id ∈ catalog.ids,
          series.value other id = series'.value other id := by
  intro hclaim
  have hshown : "twice" ∈ remeasuredSeries.commits ∧ "twice" ∈ extendedSeries.commits := by decide +kernel
  have hsame := hclaim _ _ _ _ _ _ _ _ _ _ _ _ _ _ { maxCommits := 2 } reads_remeasured reads_extended adds_newRun
    newest_newRun rfl absent_newRun complete_newRun history?_remeasured (by decide) (by decide) (by decide) _ _ _ _
    load_remeasured load_extended "twice" hshown.1 hshown.2 1 (by decide)
  have hvalues : remeasuredSeries.value "twice" 1 = 11 ∧ extendedSeries.value "twice" 1 = 21 := by decide +kernel
  rw [hvalues.1, hvalues.2] at hsame
  exact absurd hsame (by decide)

end Remeasured

end Store

end CommitCharts
