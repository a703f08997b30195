import CommitCharts.Proofs.Store.Window

/-!
# CommitCharts.Proofs.Store.Cut — what a limit may hide

A reading with a limit sees the first part of a history.  It may miss commits, but those it shows are complete in the
whole history and stand in the same order as without a limit (`cut_sound`).
-/

namespace CommitCharts.Store

open Series

variable {files : Files} {s : Store} {records : List Record}

/-- A reading of no rows is refused before anything is read. -/
theorem load_eq_invalidLimit (files : Files) (s : Store) {c : Config} {catalog : Catalog}
    (h : c.maxCommits.toNat = 0 ∨ catalog.size = 0) : s.load files c catalog = .error ⟨s.path, .invalidLimit⟩ := by
  have hlimit : recordLimit c.maxCommits.toNat catalog.size = 0 := by
    rw [recordLimit_eq]
    rcases h with h | h <;> simp [h]
  unfold load fetchForCommits
  rw [hlimit]
  rfl

theorem shown_sublist (records : List Record) (catalog : Catalog) (limit maxCommits : Nat) :
    (shown (loaded (records.take limit) catalog maxCommits)).Sublist (Record.completeCommits records catalog) := by
  rw [shown_loaded]
  have hcut := Record.completeCommits_sublist (records.take limit) (records.drop limit) catalog
  rw [List.take_append_drop] at hcut
  exact (List.take_sublist _ _).trans hcut

/-- **Cutting a history**: the commits shown of the first records keep their order among those shown of all records, if
the cap keeps none away, and the frames of all records are those of the first ones with those of the others laid over
them.  So a reading of a store fails for want of a limit, or what it shows is complete in the whole history and stands
in the order of the selection without limit and cap. -/
theorem cut_sound (catalog : Catalog) :
    (∀ (xs ys : List Record) (cap : Nat), (Record.sightings (xs ++ ys)).length ≤ cap →
      (organize xs catalog cap).commits.Sublist (organize (xs ++ ys) catalog cap).commits ∧
      ∀ commit,
        (organize (xs ++ ys) catalog cap).frame commit =
          ((organize xs catalog cap).frame commit).overlay ((organize ys catalog cap).frame commit)) ∧
    ∀ (files : Files) (s : Store) (records : List Record) (c : Config), s.history? files = .ok records →
      (s.load files c catalog = .error ⟨s.path, .invalidLimit⟩ ∧ (c.maxCommits.toNat = 0 ∨ catalog.size = 0)) ∨
      ∃ result, s.load files c catalog = .ok result ∧
        (∀ commit ∈ shown result, Record.Covers records catalog commit) ∧
        ∀ cap, (Record.sightings records).length ≤ cap →
          (shown result).Sublist (organize records catalog cap).commits := by
  refine ⟨fun xs ys cap hcap => ⟨commits_organize_sublist catalog hcap, frame_organize_append catalog xs ys cap⟩,
    fun files s records c hhistory => ?_⟩
  by_cases hzero : c.maxCommits.toNat = 0 ∨ catalog.size = 0
  · exact .inl ⟨load_eq_invalidLimit files s hzero, hzero⟩
  · obtain ⟨hcommits, htests⟩ := not_or.mp hzero
    have hload := load_of_history hhistory (Nat.pos_of_ne_zero hcommits) (Nat.pos_of_ne_zero htests)
    have hsublist := shown_sublist records catalog (recordLimit c.maxCommits.toNat catalog.size) c.maxCommits.toNat
    refine .inr ⟨_, hload, fun commit hcommit => ?_, fun cap hcap => ?_⟩
    · exact Record.covers_of_mem_completeCommits (hsublist.subset hcommit)
    · rw [commits_organize_of_le catalog hcap]
      exact hsublist

/-- A limit of two rows cuts the older of the two commits in the middle: it is hidden, but nothing is shown wrongly. -/
theorem cut_sound_brokenOff :
    (Record.sightings brokenOffRecords).length ≤ 2 ∧ diskStore.history? (onDisk brokenOff) = .ok brokenOffRecords ∧
      (organize (brokenOffRecords.take 2) twoTests 2).commits.Sublist (organize brokenOffRecords twoTests 2).commits ∧
      ∃ result, diskStore.load (onDisk brokenOff) { maxCommits := 1 } twoTests = .ok result ∧
        (shown result).Sublist (organize brokenOffRecords twoTests 2).commits := by
  have hsightings : (Record.sightings brokenOffRecords).length ≤ 2 := by decide
  obtain ⟨hrecords, hstores⟩ := cut_sound twoTests
  refine ⟨hsightings, history?_brokenOff,
    (hrecords (brokenOffRecords.take 2) (brokenOffRecords.drop 2) 2 hsightings).1, ?_⟩
  rcases hstores (onDisk brokenOff) diskStore brokenOffRecords { maxCommits := 1 } history?_brokenOff with
    ⟨-, hzero⟩ | ⟨result, hload, -, hshown⟩
  · exact absurd hzero (by decide)
  · exact ⟨result, hload, hshown 2 hsightings⟩

end CommitCharts.Store
