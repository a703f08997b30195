import CommitCharts.Proofs.Series.Grouping
import CommitCharts.Proofs.SortedMap

/-!
# CommitCharts.Proofs.Series.Selection — which commits are shown

A commit is complete by the size of its frame.  That size equals the number of tests exactly when the tests have
distinct ids and each has a record at the commit (`isComplete_iff`), so the shown commits can be read off the records
(`commits_organize`).  `organize_determined` states all that a series consists of.
-/

namespace CommitCharts

/-- The tests of the catalog have distinct ids, and each has a record at the commit. -/
def Record.Covers (records : List Record) (catalog : Catalog) (commit : String) : Prop :=
  catalog.ids.Nodup ∧ ∀ id ∈ catalog.ids, ∃ r ∈ records, r.commit = commit ∧ r.testId = id

-- The ids are gone through as a list: as a type they could be enumerated as well, but they are far too many.
instance (records : List Record) (catalog : Catalog) (commit : String) :
    Decidable (Record.Covers records catalog commit) :=
  have (id : TestId) : Decidable (∃ r ∈ records, r.commit = commit ∧ r.testId = id) :=
    List.decidableBEx (fun r => r.commit = commit ∧ r.testId = id) records
  have := List.decidableBAll (fun id => ∃ r ∈ records, r.commit = commit ∧ r.testId = id) catalog.ids
  instDecidableAnd

/-- The commits with a record of every test, in the order of first sighting. -/
def Record.completeCommits (records : List Record) (catalog : Catalog) : List String :=
  (sightings records).filter (Covers records catalog)

namespace Grouping

/-- Comparing the size of a frame with the number of tests finds the commits with a record of every test. -/
theorem isComplete_iff {records : List Record} (catalog : Catalog) {commit : String}
    (h : commit ∈ records.map (·.commit)) :
    (ofRecords catalog records).isComplete catalog commit = true ↔ Record.Covers records catalog commit := by
  obtain ⟨frame, hframe⟩ :=
    Option.isSome_iff_exists.1 ((isSome_frames_ofRecords catalog records commit).2 h)
  have hget : ∀ id, frame.get? id =
      if id ∈ catalog.ids then Record.latest? records commit id else none := fun id => by
    rw [← get?_frames_ofRecords, hframe, Option.bind_some]
  have hkeys : ∀ id ∈ frame.keys, id ∈ catalog.ids := fun id hid => by
    by_contra hout
    rw [SortedMap.mem_keys, hget, if_neg hout] at hid
    simp at hid
  have hsize : (ofRecords catalog records).isComplete catalog commit = true ↔
      frame.size = catalog.ids.length := by
    simp [isComplete, hframe]
  rw [hsize, SortedMap.size_eq_length_iff hkeys]
  refine and_congr_right fun _ => forall₂_congr fun id hid => ?_
  rw [hget, if_pos hid, Record.isSome_latest?]

end Grouping

namespace Series

variable (records : List Record) (catalog : Catalog) (maxCommits : Nat)

theorem isSome_frame?_organize (commit : String) :
    ((organize records catalog maxCommits).frame? commit).isSome ↔ commit ∈ records.map (·.commit) :=
  Grouping.isSome_frames_ofRecords catalog records commit

theorem get?_frame?_organize (commit : String) (id : TestId) :
    ((organize records catalog maxCommits).frame? commit).bind (·.get? id) =
      if id ∈ catalog.ids then Record.latest? records commit id else none :=
  Grouping.get?_frames_ofRecords catalog records commit id

variable {records catalog maxCommits} in
theorem value_organize {commit : String} {id : TestId} (hid : id ∈ catalog.ids) :
    (organize records catalog maxCommits).value commit id = (Record.latest? records commit id).getD 0 := by
  unfold value
  rw [get?_frame?_organize, if_pos hid]

theorem commits_organize :
    (organize records catalog maxCommits).commits =
      (Record.completeCommits records catalog).take maxCommits := by
  unfold organize Record.completeCommits
  dsimp only
  rw [Grouping.seen_ofRecords]
  congr 1
  refine List.filter_congr fun commit hcommit => ?_
  rw [Bool.eq_iff_iff, decide_eq_true_iff]
  exact Grouping.isComplete_iff catalog (Record.mem_sightings.1 hcommit)

theorem size_organize :
    (organize records catalog maxCommits).size = min maxCommits (Record.completeCommits records catalog).length := by
  unfold size
  rw [commits_organize, List.length_take]

theorem nodup_commits_organize : (organize records catalog maxCommits).commits.Nodup := by
  rw [commits_organize]
  exact ((Record.nodup_sightings records).filter _).sublist (List.take_sublist _ _)

/-- **The series of records**: it has a frame for every commit of the records.  A frame holds the cycles of the last
record of every test in the catalog that has one, and nothing else.  The shown commits are the first ones in the order
of first sighting for which the catalog has distinct ids and each id has a record.  None is shown twice, and a catalog
with a repeated id shows none. -/
theorem organize_determined :
    (∀ commit, ((organize records catalog maxCommits).frame? commit).isSome ↔
      commit ∈ records.map (·.commit)) ∧
    (∀ commit frame, (organize records catalog maxCommits).frame? commit = some frame → ∀ id cycles,
      frame.get? id = some cycles ↔ id ∈ catalog.ids ∧ Record.latest? records commit id = some cycles) ∧
    (organize records catalog maxCommits).commits =
      ((Record.sightings records).filter (Record.Covers records catalog)).take maxCommits ∧
    (organize records catalog maxCommits).commits.Nodup ∧
    (¬ catalog.ids.Nodup → (organize records catalog maxCommits).commits = []) := by
  refine ⟨isSome_frame?_organize records catalog maxCommits, fun commit frame hframe id cycles => ?_,
    commits_organize records catalog maxCommits, nodup_commits_organize records catalog maxCommits,
    fun hrepeated => ?_⟩
  · have hget := get?_frame?_organize records catalog maxCommits commit id
    rw [hframe, Option.bind_some] at hget
    rw [hget]
    by_cases hid : id ∈ catalog.ids <;> simp [hid]
  · rw [commits_organize, Record.completeCommits, List.filter_eq_nil_iff.2, List.take_nil]
    intro commit _ hcovers
    exact hrepeated (of_decide_eq_true hcovers).1

end Series

end CommitCharts
