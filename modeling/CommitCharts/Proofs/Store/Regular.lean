import CommitCharts.Proofs.Store.Tables
import CommitCharts.Proofs.Store.Window

/-!
# CommitCharts.Proofs.Store.Regular — regular histories

A history is regular when every run that counts measured each test of the catalog once and no two runs are of the same
commit.  The rows then come in blocks of one length, one block for each run, so the limit falls between two runs
(`take_flatMap_of_length`).  Hence as many commits are shown as were asked for, or all of them (`load_regular`).
-/

namespace CommitCharts

section Blocks

variable {α β γ ε : Type}

theorem mapM_flatMap_of_ok {f : α → List β} {g : α → List γ} {h : β → Except ε γ} {xs : List α}
    (hread : ∀ x ∈ xs, (f x).mapM h = .ok (g x)) : (xs.flatMap f).mapM h = .ok (xs.flatMap g) := by
  induction xs with
  | nil => rfl
  | cons x xs ih =>
    have hfirst := mapM_eq_ok_iff.1 (hread x (List.mem_cons_self ..))
    have hrest := mapM_eq_ok_iff.1 (ih fun y hy => hread y (List.mem_cons_of_mem x hy))
    rw [List.flatMap_cons, List.flatMap_cons]
    exact mapM_eq_ok_iff.2 (List.rel_append hfirst hrest)

variable {g : α → List β} {k : Nat}

theorem length_flatMap_of_length {xs : List α} (h : ∀ x ∈ xs, (g x).length = k) :
    (xs.flatMap g).length = k * xs.length := by
  have hlengths : xs.map (fun x => (g x).length) = List.replicate xs.length k := by
    rw [List.map_congr_left h, List.map_const']
  rw [List.length_flatMap, hlengths, List.sum_replicate_nat, Nat.mul_comm]

/-- As many items as some whole blocks have are those blocks. -/
theorem take_flatMap_of_length {xs : List α} (h : ∀ x ∈ xs, (g x).length = k) (n : Nat) :
    (xs.flatMap g).take (n * k) = (xs.take n).flatMap g := by
  induction xs generalizing n with
  | nil => simp
  | cons x xs ih =>
    cases n with
    | zero => simp
    | succ n =>
      have hfirst : (g x).length = k := h x (List.mem_cons_self ..)
      have hcount : (n + 1) * k = (g x).length + n * k := by
        rw [hfirst, Nat.succ_mul, Nat.add_comm]
      rw [List.flatMap_cons, hcount, List.take_length_add_append, ih fun y hy => h y (List.mem_cons_of_mem x hy)]
      rfl

end Blocks

section Series

open Record

variable {catalog : Catalog} {blocks : List (String × List Record)}

/-- No later block is of the commit of the first one. -/
theorem notMem_commits_of_blocks {commit : String} (hblocks : ∀ b ∈ blocks, IsBlock catalog b.1 b.2)
    (hnew : commit ∉ blocks.map (·.1)) : commit ∉ (blocks.flatMap (·.2)).map (·.commit) := by
  intro hmem
  obtain ⟨r, hr, rfl⟩ := List.mem_map.1 hmem
  obtain ⟨b, hb, hr⟩ := List.mem_flatMap.1 hr
  exact hnew ((hblocks b hb).ofCommit r hr ▸ List.mem_map_of_mem hb)

/-- The complete commits of blocks are the commits of the blocks. -/
theorem completeCommits_blocks (hids : catalog.ids ≠ []) (hnodup : catalog.ids.Nodup)
    (hblocks : ∀ b ∈ blocks, IsBlock catalog b.1 b.2) (hdistinct : (blocks.map (·.1)).Nodup) :
    completeCommits (blocks.flatMap (·.2)) catalog = blocks.map (·.1) := by
  induction blocks with
  | nil => rfl
  | cons b bs ih =>
    obtain ⟨hnew, hdistinct⟩ := List.nodup_cons.1 hdistinct
    have hrest : ∀ b ∈ bs, IsBlock catalog b.1 b.2 := fun d hd => hblocks d (List.mem_cons_of_mem b hd)
    have hfirst := hblocks b (List.mem_cons_self ..)
    rw [List.flatMap_cons, hfirst.completeCommits_append hids hnodup (notMem_commits_of_blocks hrest hnew),
      ih hrest hdistinct]
    rfl

/-- The frame of a block's commit holds the cycles of that block. -/
theorem get?_frame_blocks (hnodup : catalog.ids.Nodup) (hblocks : ∀ b ∈ blocks, IsBlock catalog b.1 b.2)
    (hdistinct : (blocks.map (·.1)).Nodup) (maxCommits : Nat) {b : String × List Record} (hb : b ∈ blocks) (id : TestId)
    (cycles : UInt64) :
    ((Series.organize (blocks.flatMap (·.2)) catalog maxCommits).frame b.1).get? id = some cycles ↔
      ∃ r ∈ b.2, r.testId = id ∧ r.cycles = cycles := by
  induction blocks with
  | nil => cases hb
  | cons d ds ih =>
    obtain ⟨hnew, hdistinct⟩ := List.nodup_cons.1 hdistinct
    have hrest : ∀ b ∈ ds, IsBlock catalog b.1 b.2 := fun e he => hblocks e (List.mem_cons_of_mem d he)
    have hfirst := hblocks d (List.mem_cons_self ..)
    rw [List.flatMap_cons]
    rcases List.mem_cons.1 hb with rfl | hb
    · exact Series.get?_frame_organize_block hfirst hnodup (notMem_commits_of_blocks hrest hnew) id cycles
    · have hother : b.1 ≠ d.1 := fun he => hnew (List.mem_map.2 ⟨b, hb, he⟩)
      have hframe : (Series.organize (d.2 ++ ds.flatMap (·.2)) catalog maxCommits).frame b.1 =
          (Series.organize (ds.flatMap (·.2)) catalog maxCommits).frame b.1 :=
        congrArg (·.getD ∅) (Series.frame?_organize_block_of_ne hfirst.ofCommit hother)
      rw [hframe]
      exact ih hrest hdistinct hb

end Series

namespace Database

/-- Every run that counts is complete, and each has a commit of its own. -/
structure Regular (names : Names) (runs : SortedMap Int64 RunRow) (results : SortedMap Int64 ResultRow)
    (catalog : Catalog) : Prop where
  complete : ∀ r ∈ keptRuns runs, ∃ block, CompleteRun names results catalog r block
  distinct : ((keptRuns runs).map (·.2.commit)).Nodup

variable {names : Names} {runs : SortedMap Int64 RunRow} {results : SortedMap Int64 ResultRow} {catalog : Catalog}

/-- Each run of a regular history has a commit and a block. -/
theorem Regular.exists_blockOf (h : Regular names runs results catalog) (hids : catalog.ids ≠ []) :
    ∃ blockOf : Int64 × RunRow → String × List Record, ∀ r ∈ keptRuns runs,
      r.2.commit = .text (blockOf r).1 ∧ CompleteRun names results catalog r (blockOf r).2 := by
  have hall : ∀ r, ∃ b : String × List Record, r ∈ keptRuns runs →
      r.2.commit = .text b.1 ∧ CompleteRun names results catalog r b.2 := by
    intro r
    by_cases hr : r ∈ keptRuns runs
    · obtain ⟨block, hblock⟩ := h.complete r hr
      obtain ⟨commit, hcommit, -⟩ := hblock.exists_block hids
      exact ⟨(commit, block), fun _ => ⟨hcommit, hblock⟩⟩
    · exact ⟨("", []), fun hmem => absurd hmem hr⟩
  exact Classical.skolem.1 hall

/-- The blocks of the most recent runs have the commits of these runs, none twice. -/
theorem Regular.commits_take (h : Regular names runs results catalog) {blockOf : Int64 × RunRow → String × List Record}
    (hcommit : ∀ r ∈ keptRuns runs, r.2.commit = .text (blockOf r).1) (n : Nat) :
    ((((keptRuns runs).take n).map blockOf).map (·.1)).map TextCell.text = ((keptRuns runs).take n).map (·.2.commit) ∧
    ((((keptRuns runs).take n).map blockOf).map (·.1)).Nodup := by
  have hnames : ((((keptRuns runs).take n).map blockOf).map (·.1)).map TextCell.text =
      ((keptRuns runs).take n).map (·.2.commit) := by
    rw [List.map_map, List.map_map]
    exact List.map_congr_left fun r hr => (hcommit r (List.mem_of_mem_take hr)).symm
  have hdistinct : (((keptRuns runs).take n).map (·.2.commit)).Nodup :=
    h.distinct.sublist ((List.take_sublist _ _).map _)
  rw [← hnames] at hdistinct
  exact ⟨hnames, List.Nodup.of_map TextCell.text hdistinct⟩

end Database

namespace Store

open Database

variable {files : Files} {s : Store} {names : Names} {runs : SortedMap Int64 RunRow}
  {results : SortedMap Int64 ResultRow} {c : Config} {catalog : Catalog} {blocks : List (String × List Record)}

/-- Of a history of blocks, whole blocks are loaded. -/
theorem load_of_blocks (hhistory : s.history? files = .ok (blocks.flatMap (·.2)))
    (hblocks : ∀ b ∈ blocks, Record.IsBlock catalog b.1 b.2) (hcommits : 0 < c.maxCommits.toNat)
    (hsize : 0 < catalog.size) (hlimit : c.maxCommits.toNat * catalog.size ≤ UInt32.size - 1) :
    s.load files c catalog =
      .ok (loaded ((blocks.take c.maxCommits.toNat).flatMap (·.2)) catalog c.maxCommits.toNat) := by
  rw [load_of_history hhistory hcommits hsize, recordLimit_eq, Nat.min_eq_left hlimit,
    take_flatMap_of_length fun b hb => (hblocks b hb).length]

theorem loaded_blocks (hblocks : ∀ b ∈ blocks, Record.IsBlock catalog b.1 b.2) (hsize : 0 < catalog.size)
    (hne : blocks ≠ []) (maxCommits : Nat) :
    loaded (blocks.flatMap (·.2)) catalog maxCommits =
      some (catalog.size * blocks.length, Series.organize (blocks.flatMap (·.2)) catalog maxCommits) := by
  have hlength : (blocks.flatMap (·.2)).length = catalog.size * blocks.length :=
    length_flatMap_of_length fun b hb => (hblocks b hb).length
  have hpos : 0 < (blocks.flatMap (·.2)).length := by
    rw [hlength]
    exact Nat.mul_pos hsize (List.length_pos_iff.2 hne)
  unfold loaded
  rw [List.isEmpty_eq_false_iff.2 (List.length_pos_iff.1 hpos), hlength]
  rfl

/-- **Regular histories are shown in full**: without a run there is nothing to show.  Otherwise as many commits are
shown as were asked for, or all of them, from the most recent run on, each with the cycles of its run. -/
theorem load_regular (hreads : Reads files s names runs results) (hids : catalog.ids ≠ [])
    (hnodup : catalog.ids.Nodup) (hcommits : 1 ≤ c.maxCommits.toNat)
    (hlimit : c.maxCommits.toNat * catalog.size ≤ UInt32.size - 1) (hregular : Regular names runs results catalog) :
    (keptRuns runs = [] → s.load files c catalog = .ok none) ∧
    (keptRuns runs ≠ [] → ∃ series,
      s.load files c catalog =
        .ok (some (catalog.size * min c.maxCommits.toNat (keptRuns runs).length, series)) ∧
      series.commits.map TextCell.text = ((keptRuns runs).take c.maxCommits.toNat).map (·.2.commit) ∧
      ∀ r ∈ (keptRuns runs).take c.maxCommits.toNat, ∃ commit block,
        r.2.commit = .text commit ∧ CompleteRun names results catalog r block ∧
        ∀ id cycles, (series.frame commit).get? id = some cycles ↔
          ∃ x ∈ block, x.testId = id ∧ x.cycles = cycles) := by
  obtain ⟨blockOf, hblockOf⟩ := hregular.exists_blockOf hids
  have hsize : 0 < catalog.size := Catalog.size_pos_iff.2 hids
  have hblocks : ∀ b ∈ (keptRuns runs).map blockOf, Record.IsBlock catalog b.1 b.2 := by
    intro b hb
    obtain ⟨r, hr, rfl⟩ := List.mem_map.1 hb
    exact (hblockOf r hr).2.isBlock (hblockOf r hr).1
  have hhistory : s.history? files = .ok (((keptRuns runs).map blockOf).flatMap (·.2)) := by
    rw [history?_of_reads hreads, rows_eq_flatMap, List.flatMap_map]
    exact mapM_flatMap_of_ok fun r hr => (hblockOf r hr).2.read
  have hload := load_of_blocks hhistory hblocks hcommits hsize hlimit
  rw [← List.map_take] at hload
  set n := c.maxCommits.toNat
  have hshown : ∀ b ∈ ((keptRuns runs).take n).map blockOf, Record.IsBlock catalog b.1 b.2 := by
    intro b hb
    rw [List.map_take] at hb
    exact hblocks b (List.mem_of_mem_take hb)
  obtain ⟨hnames, hdistinct⟩ := hregular.commits_take (fun r hr => (hblockOf r hr).1) n
  refine ⟨fun hnone => ?_, fun hsome => ?_⟩
  · rw [hload, hnone, List.take_nil]
    rfl
  · have hlength : (((keptRuns runs).take n).map blockOf).length = min n (keptRuns runs).length := by
      rw [List.length_map, List.length_take]
    have hne : ((keptRuns runs).take n).map blockOf ≠ [] := by
      refine List.length_pos_iff.1 ?_
      rw [hlength]
      exact Nat.lt_min.2 ⟨hcommits, List.length_pos_iff.2 hsome⟩
    refine ⟨_, by rw [hload, loaded_blocks hshown hsize hne, hlength], ?_, fun r hr => ?_⟩
    · have hfew : ((((keptRuns runs).take n).map blockOf).map (·.1)).length ≤ n := by
        rw [List.length_map, hlength]
        exact Nat.min_le_left _ _
      rw [Series.commits_organize, completeCommits_blocks hids hnodup hshown hdistinct, List.take_of_length_le hfew,
        hnames]
    · obtain ⟨hcommit, hcomplete⟩ := hblockOf r (List.mem_of_mem_take hr)
      exact ⟨(blockOf r).1, (blockOf r).2, hcommit, hcomplete,
        get?_frame_blocks hnodup hshown hdistinct n (List.mem_map_of_mem hr)⟩

section Tied

/-- Two runs at the same time, an older run that was written later, and a newer one without a commit. -/
def tied : Database := Database.applyAll {}
  [.createRuns, .createResults,
    .addRun none (.text "2026-01-02") (.text "first")
      [(.integer 2, .text "b", .integer 20), (.integer 1, .text "a", .integer 10)],
    .addRun none (.text "2026-01-02") (.text "second")
      [(.integer 1, .text "a", .integer 11), (.integer 2, .text "b", .integer 21)],
    .addRun none (.text "2026-01-01") (.text "old")
      [(.integer 1, .text "a", .integer 12), (.integer 2, .text "b", .integer 22)],
    .addRun none (.text "2026-01-03") .null [(.integer 1, .text "a", .integer 13)]]

def tiedRuns : SortedMap Int64 RunRow := (tied.runs.map Table.rows).getD ∅

def tiedResults : SortedMap Int64 ResultRow := (tied.results.map Table.rows).getD ∅

theorem reads_tied : Reads (onDisk tied) diskStore {} tiedRuns tiedResults := reads_onDisk rfl rfl

theorem keptRuns_tied : keptRuns tiedRuns =
    [(2, ⟨.text "2026-01-02", .text "second"⟩), (1, ⟨.text "2026-01-02", .text "first"⟩),
      (3, ⟨.text "2026-01-01", .text "old"⟩)] :=
  keptRuns_eq_of_pairwise (.swap _ _ _) (by decide +kernel)

theorem regular_tied : Regular {} tiedRuns tiedResults twoTests := by
  refine ⟨fun r hr => ?_, ?_⟩
  · rw [keptRuns_tied] at hr
    simp only [List.mem_cons, List.not_mem_nil, or_false] at hr
    rcases hr with rfl | rfl | rfl
    · exact ⟨[⟨"second", 1, "a", 11⟩, ⟨"second", 2, "b", 21⟩], by rfl, .refl _⟩
    · exact ⟨[⟨"first", 2, "b", 20⟩, ⟨"first", 1, "a", 10⟩], by rfl, .swap _ _ _⟩
    · exact ⟨[⟨"old", 1, "a", 12⟩, ⟨"old", 2, "b", 22⟩], by rfl, .refl _⟩
  · rw [keptRuns_tied]
    decide

/-- Of two runs at the same time the one with the larger number is shown first. -/
theorem load_regular_tied :
    Reads (onDisk tied) diskStore {} tiedRuns tiedResults ∧ Regular {} tiedRuns tiedResults twoTests ∧
      ∃ series, diskStore.load (onDisk tied) { maxCommits := 2 } twoTests = .ok (some (4, series)) ∧
        series.commits = ["second", "first"] := by
  obtain ⟨-, hsome⟩ :=
    load_regular (c := { maxCommits := 2 }) reads_tied (by decide) (by decide) (by decide) (by decide) regular_tied
  rw [keptRuns_tied] at hsome
  obtain ⟨series, hload, hcommits, -⟩ := hsome (List.cons_ne_nil _ _)
  refine ⟨reads_tied, regular_tied, series, hload, ?_⟩
  exact List.map_injective_iff.2 (fun _ _ => TextCell.text.inj) hcommits

end Tied

end Store

end CommitCharts
