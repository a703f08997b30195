import CommitCharts.Proofs.Series.Append
import CommitCharts.Proofs.Store.History

/-!
# CommitCharts.Proofs.Store.Window — the commits that a limited reading shows

A store is read up to a number of rows that is fixed before anything is known about them: one row for each test at
each wanted commit.  The rows that are read are the window.  What is shown are the first complete commits of the
window; they are the first complete commits of the whole history exactly when each of these is complete within the
window (`shown_eq_iff`).  One incomplete commit in front is enough to push a complete one out
(`shown_misses_complete_commit`).
-/

namespace CommitCharts

/-- Filtering leaves the first items of a list the same exactly when they all pass. -/
theorem take_filter_eq_take_iff {α : Type} {p : α → Bool} {xs : List α} {n : Nat} :
    (xs.filter p).take n = xs.take n ↔ ∀ x ∈ xs.take n, p x = true := by
  constructor
  · intro h x hx
    rw [← h] at hx
    exact (List.mem_filter.1 (List.mem_of_mem_take hx)).2
  · intro h
    have hsplit : xs.filter p = xs.take n ++ (xs.drop n).filter p := by
      conv_lhs => rw [← List.take_append_drop n xs, List.filter_append, List.filter_eq_self.2 h]
    rw [hsplit]
    rcases Nat.le_total n xs.length with hn | hn
    · exact List.take_left' (List.length_take_of_le hn)
    · rw [List.drop_eq_nil_of_le hn, List.filter_nil, List.append_nil, List.take_take, Nat.min_self]

namespace Record

variable {catalog : Catalog}

theorem Covers.mem_sightings {records : List Record} {commit : String} (htests : 0 < catalog.size)
    (h : Covers records catalog commit) : commit ∈ sightings records := by
  obtain ⟨id, hid⟩ := List.exists_mem_of_ne_nil _ (Catalog.size_pos_iff.1 htests)
  obtain ⟨r, hr, hcommit, -⟩ := h.2 id hid
  exact Record.mem_sightings.2 (List.mem_map.2 ⟨r, hr, hcommit⟩)

/-- The complete commits of the first records are those of all records that are complete among the first. -/
theorem completeCommits_prefix (htests : 0 < catalog.size) (xs ys : List Record) :
    completeCommits xs catalog = (completeCommits (xs ++ ys) catalog).filter (Covers xs catalog) := by
  unfold completeCommits
  rw [List.filter_filter]
  obtain ⟨later, hlater⟩ := sightings_prefix_append xs ys
  -- commits sighted later have no record among the first ones
  have hnone : later.filter (fun commit => Covers xs catalog commit && Covers (xs ++ ys) catalog commit) = [] := by
    refine List.filter_eq_nil_iff.2 fun commit hcommit hboth => ?_
    have hfirst := (of_decide_eq_true (Bool.and_eq_true_iff.1 hboth).1).mem_sightings htests
    have hnodup := nodup_sightings (xs ++ ys)
    rw [← hlater] at hnodup
    exact (List.nodup_append.1 hnodup).2.2 commit hfirst commit hcommit rfl
  rw [← hlater, List.filter_append, hnone, List.append_nil]
  refine List.filter_congr fun commit _ => ?_
  by_cases h : Covers xs catalog commit
  · simp [h, h.append ys]
  · simp [h]

end Record

namespace Store

variable {files : Files} {s : Store} {records : List Record}

/-- The rows that are read for a number of commits, out of all rows. -/
def window (records : List Record) (catalog : Catalog) (commits : Nat) : List Record :=
  records.take (min (commits * catalog.size) (UInt32.size - 1))

/-- The commits that are shown of what was loaded. -/
def shown : Option (Nat × Series) → List String
  | some (_, series) => series.commits
  | none => []

theorem shown_loaded (records : List Record) (catalog : Catalog) (maxCommits : Nat) :
    shown (loaded records catalog maxCommits) = (Record.completeCommits records catalog).take maxCommits := by
  unfold loaded
  cases records with
  | nil => simp [shown, Record.completeCommits]
  | cons r records => exact Series.commits_organize (r :: records) catalog maxCommits

/-- **What is shown**: a reading for some commits succeeds and shows the first complete commits of the window.  These
are the first complete commits of the whole history exactly when each of those has a row of every test within the
window. -/
theorem shown_eq_iff (c : Config) (catalog : Catalog) (h : s.history? files = .ok records)
    (hcommits : 0 < c.maxCommits.toNat) (htests : 0 < catalog.size) :
    ∃ result, s.load files c catalog = .ok result ∧
      shown result =
        (Record.completeCommits (window records catalog c.maxCommits.toNat) catalog).take c.maxCommits.toNat ∧
      (shown result = (Record.completeCommits records catalog).take c.maxCommits.toNat ↔
        ∀ commit ∈ (Record.completeCommits records catalog).take c.maxCommits.toNat,
          Record.Covers (window records catalog c.maxCommits.toNat) catalog commit) := by
  have hload := load_of_history h hcommits htests
  rw [recordLimit_eq] at hload
  refine ⟨_, hload, shown_loaded _ _ _, ?_⟩
  rw [shown_loaded]
  set limit := min (c.maxCommits.toNat * catalog.size) (UInt32.size - 1) with hlimit
  have hcut := Record.completeCommits_prefix htests (records.take limit) (records.drop limit)
  rw [List.take_append_drop] at hcut
  rw [hcut, take_filter_eq_take_iff]
  simp only [window, hlimit, decide_eq_true_iff]

/-! ### An incomplete commit in front -/

section BrokenOff

/-- Two runs of two tests; the later one was broken off after its first test. -/
def brokenOff : Database := Database.applyAll {}
  [.createRuns, .createResults,
    .addRun none (.text "2026-01-02") (.text "new") [(.integer 1, .text "a", .integer 11)],
    .addRun none (.text "2026-01-01") (.text "old")
      [(.integer 1, .text "a", .integer 10), (.integer 2, .text "b", .integer 20)]]

def brokenOffRecords : List Record := [⟨"new", 1, "a", 11⟩, ⟨"old", 1, "a", 10⟩, ⟨"old", 2, "b", 20⟩]

def twoTests : Catalog := ⟨[⟨1, "Test 1: A", ⟨0, 0, 0⟩⟩, ⟨2, "Test 2: B", ⟨0, 0, 0⟩⟩]⟩

theorem history?_brokenOff : diskStore.history? (onDisk brokenOff) = .ok brokenOffRecords := by
  rw [history?_of_leadsTo (leadsTo_onDisk brokenOff) rfl rfl, Database.rows_eq_joined (by decide +kernel)]
  rfl

/-- For two commits the window has room for four rows, and the complete commit is shown. -/
theorem shown_brokenOff :
    diskStore.history? (onDisk brokenOff) = .ok brokenOffRecords ∧
    ∃ result, diskStore.load (onDisk brokenOff) { maxCommits := 2 } twoTests = .ok result ∧
      shown result = ["old"] := by
  refine ⟨history?_brokenOff, ?_⟩
  obtain ⟨result, hload, -, hiff⟩ :=
    shown_eq_iff { maxCommits := 2 } twoTests history?_brokenOff (by decide) (by decide)
  have hall : (Record.completeCommits brokenOffRecords twoTests).take 2 = ["old"] := by decide +kernel
  have hcovers : Record.Covers (window brokenOffRecords twoTests 2) twoTests "old" := by decide +kernel
  have hshown := hiff.2 fun commit hcommit => by
    obtain rfl := List.mem_singleton.1 (hall ▸ hcommit)
    exact hcovers
  exact ⟨result, hload, hshown.trans hall⟩

/-- For one commit the window has two rows, of two commits, and no commit is shown although one is complete. -/
theorem shown_misses_complete_commit :
    ¬ ∀ (files : Files) (s : Store) (records : List Record) (c : Config) (catalog : Catalog),
      s.history? files = .ok records → catalog.ids ≠ [] → catalog.ids.Nodup → 1 ≤ c.maxCommits.toNat →
      ∃ result, s.load files c catalog = .ok result ∧
        shown result = (Record.completeCommits records catalog).take c.maxCommits.toNat := by
  intro hclaim
  obtain ⟨result, hload, hshown⟩ :=
    hclaim (onDisk brokenOff) diskStore brokenOffRecords { maxCommits := 1 } twoTests history?_brokenOff
      (by decide) (by decide) (by decide)
  rw [load_of_history history?_brokenOff (by decide) (by decide)] at hload
  obtain rfl := Except.ok.inj hload
  exact absurd hshown (by decide +kernel)

end BrokenOff

end Store

end CommitCharts
