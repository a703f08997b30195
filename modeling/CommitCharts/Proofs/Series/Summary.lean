import CommitCharts.Chart.Overview
import CommitCharts.Chart.Trend
import CommitCharts.Proofs.Series.Append
import CommitCharts.Series.Summary

/-!
# CommitCharts.Proofs.Series.Summary — every number shown was measured

Where a frame has no value, zero stands in for it.  A shown commit has a value for every test of the catalog
(`value_of_shown`), so nothing that is shown of a series of records is such a zero: the rows of the summary, the
bars of the overview and the points of the trends all have the cycles of a record (`summary_measured`).
-/

namespace CommitCharts

namespace Series

variable {records : List Record} {catalog : Catalog} {maxCommits : Nat}

/-- There are as many frames as commits were sighted. -/
theorem size_frames_organize (records : List Record) (catalog : Catalog) (maxCommits : Nat) :
    (organize records catalog maxCommits).frames.size = (Record.sightings records).length := by
  rw [← SortedMap.length_keys]
  refine List.Perm.length_eq ((List.perm_ext_iff_of_nodup (SortedMap.nodup_keys _) (Record.nodup_sightings _)).2 ?_)
  intro commit
  rw [SortedMap.mem_keys, Record.mem_sightings]
  exact isSome_frame?_organize records catalog maxCommits commit

/-- The value of a test at a shown commit is in the frame of the commit: it is that of the last record, no zero that
stands in for one. -/
theorem value_of_shown {commit : String} (hshown : commit ∈ (organize records catalog maxCommits).commits)
    {id : TestId} (hid : id ∈ catalog.ids) :
    ((organize records catalog maxCommits).frame? commit).bind (·.get? id) =
        some ((organize records catalog maxCommits).value commit id) ∧
      Record.latest? records commit id = some ((organize records catalog maxCommits).value commit id) := by
  have hframe := get?_frame?_organize records catalog maxCommits commit id
  rw [if_pos hid] at hframe
  rw [commits_organize] at hshown
  have hcovers := Record.covers_of_mem_completeCommits (List.mem_of_mem_take hshown)
  obtain ⟨cycles, hlatest⟩ := Option.isSome_iff_exists.1 (Record.isSome_latest?.2 (hcovers.2 id hid))
  rw [hframe, value_organize hid, hlatest]
  exact ⟨rfl, rfl⟩

theorem getElem?_values (s : Series) (id : TestId) (i : Nat) :
    (s.values id)[i]? = s.commits[i]?.map (s.value · id) :=
  List.getElem?_map

end Series

namespace Chart

variable {s : Series} {i : Nat} {cycles : UInt64}

theorem Overview.getElem?_bars (catalog : Catalog) (j : Nat) {t : Test} (h : (s.values t.id)[i]? = some cycles) :
    (bars s catalog j t)[i]? = some (bar catalog.size j i cycles) := by
  unfold bars
  rw [List.getElem?_map, List.getElem?_zipIdx, h, Nat.zero_add]
  rfl

theorem Trend.getElem?_points {t : Test} (h : (s.values t.id)[i]? = some cycles) :
    (points s t)[i]? = some (Float.ofNat i, cycles.toFloat) := by
  unfold points
  rw [List.getElem?_map, List.getElem?_zipIdx, h, Nat.zero_add]
  rfl

end Chart

namespace Summary

open Series

/-- **Every number shown was measured**: the summary of a series counts the commits that were sighted and has a row for
each shown commit, in their order.  A row has an entry for each test of the catalog, in its order, with the cycles of
the last record of the test at the commit, and there is one.  The overview has a bar and the trend of the test a point
for the same number. -/
theorem summary_measured (records : List Record) (catalog : Catalog) (maxCommits : Nat) :
    let s := organize records catalog maxCommits
    let summary := ofSeries s catalog records.length
    summary.commitsSeen = (Record.sightings records).length ∧
    summary.commits.map (·.commit) = s.commits ∧
    ∀ i row, summary.commits[i]? = some row →
      row.cycles.map (·.testId) = catalog.ids ∧
      ∀ j t entry, catalog.tests[j]? = some t → row.cycles[j]? = some entry →
        Record.latest? records row.commit t.id = some entry.cycles ∧
        (s.frame? row.commit).bind (·.get? t.id) = some entry.cycles ∧
        (s.values t.id)[i]? = some entry.cycles ∧
        (Chart.Overview.bars s catalog j t)[i]? = some (Chart.Overview.bar catalog.size j i entry.cycles) ∧
        (Chart.Trend.points s t)[i]? = some (Float.ofNat i, entry.cycles.toFloat) := by
  intro s summary
  refine ⟨size_frames_organize records catalog maxCommits, ?_, fun i row hrow => ?_⟩
  · show (s.commits.map (Summary.row s catalog)).map (·.commit) = s.commits
    rw [List.map_map]
    exact List.map_id _
  · have hcommits : (s.commits.map (Summary.row s catalog))[i]? = some row := hrow
    rw [List.getElem?_map] at hcommits
    obtain ⟨commit, hcommit, rfl⟩ := Option.map_eq_some_iff.1 hcommits
    refine ⟨?_, fun j t entry ht hentry => ?_⟩
    · show (catalog.tests.map fun t => (⟨t.id, t.shortName, s.value commit t.id⟩ : TestCycles)).map (·.testId) = _
      rw [List.map_map]
      rfl
    · have hentries : (catalog.tests.map fun t => (⟨t.id, t.shortName, s.value commit t.id⟩ : TestCycles))[j]? =
          some entry := hentry
      rw [List.getElem?_map, ht] at hentries
      obtain rfl := Option.some.inj hentries
      have hid : t.id ∈ catalog.ids := List.mem_map_of_mem (List.mem_of_getElem? ht)
      obtain ⟨hframe, hlatest⟩ := value_of_shown (List.mem_of_getElem? hcommit) hid
      have hvalues : (s.values t.id)[i]? = some (s.value commit t.id) := by
        rw [getElem?_values, hcommit]
        rfl
      exact ⟨hlatest, hframe, hvalues, Chart.Overview.getElem?_bars catalog j hvalues,
        Chart.Trend.getElem?_points hvalues⟩

end Summary

end CommitCharts
