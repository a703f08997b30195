import CommitCharts.Proofs.Config
import CommitCharts.Proofs.Run
import CommitCharts.Proofs.Store.Regular

/-!
# CommitCharts.Proofs.Run.Regular — charts of regular histories

Two commits at least are needed for a chart.  A regular history with two runs has them, and accepted settings have room
for them, however large the cap is and wherever it cuts the history (`Database.Regular.exists_load`), unless the cap is
one (`generateCharts_of_regular`).
-/

namespace CommitCharts

open Database Store

section Blocks

variable {catalog : Catalog} {blocks : List (String × List Record)}

/-- Records that contain the first blocks of a history show the commits of these blocks at least. -/
theorem Series.le_size_organize_blocks (hids : catalog.ids ≠ []) (hnodup : catalog.ids.Nodup)
    (hblocks : ∀ b ∈ blocks, Record.IsBlock catalog b.1 b.2) (hdistinct : (blocks.map (·.1)).Nodup) {k limit cap : Nat}
    (hhas : k ≤ blocks.length) (hlimit : k * catalog.size ≤ limit) (hcap : k ≤ cap) :
    k ≤ (organize ((blocks.flatMap (·.2)).take limit) catalog cap).size := by
  have hfirst : ∀ b ∈ blocks.take k, Record.IsBlock catalog b.1 b.2 := fun b hb => hblocks b (List.mem_of_mem_take hb)
  have hnames : ((blocks.take k).map (·.1)).Nodup := hdistinct.sublist ((List.take_sublist _ _).map _)
  have hwhole : (blocks.flatMap (·.2)).take (k * catalog.size) = (blocks.take k).flatMap (·.2) :=
    take_flatMap_of_length (fun b hb => (hblocks b hb).length) k
  obtain ⟨rest, hrest⟩ : (blocks.take k).flatMap (·.2) <+: (blocks.flatMap (·.2)).take limit :=
    hwhole ▸ List.take_prefix_take_left hlimit
  have hcomplete : k ≤ (Record.completeCommits ((blocks.flatMap (·.2)).take limit) catalog).length :=
    calc k = ((blocks.take k).map (·.1)).length := by rw [List.length_map, List.length_take_of_le hhas]
      _ = (Record.completeCommits ((blocks.take k).flatMap (·.2)) catalog).length := by
        rw [completeCommits_blocks hids hnodup hfirst hnames]
      _ ≤ _ := hrest ▸ (Record.completeCommits_sublist _ rest catalog).length_le
  rw [size_organize]
  exact Nat.le_min.2 ⟨hcap, hcomplete⟩

end Blocks

variable {files : Files} {s : Store} {names : Names} {runs : SortedMap Int64 RunRow}
  {results : SortedMap Int64 ResultRow} {c : Config} {catalog : Catalog}

/-- The history of a store is made of the blocks of its runs. -/
theorem Database.Regular.exists_blocks (h : Regular names runs results catalog)
    (hreads : Reads files s names runs results) (hids : catalog.ids ≠ []) :
    ∃ blocks : List (String × List Record), blocks.length = (keptRuns runs).length ∧
      (∀ b ∈ blocks, Record.IsBlock catalog b.1 b.2) ∧ (blocks.map (·.1)).Nodup ∧
      s.history? files = .ok (blocks.flatMap (·.2)) := by
  obtain ⟨blockOf, hblockOf⟩ := h.exists_blockOf hids
  have hdistinct := (h.commits_take (fun r hr => (hblockOf r hr).1) (keptRuns runs).length).2
  rw [List.take_length] at hdistinct
  refine ⟨(keptRuns runs).map blockOf, List.length_map _, fun b hb => ?_, hdistinct, ?_⟩
  · obtain ⟨r, hr, rfl⟩ := List.mem_map.1 hb
    exact (hblockOf r hr).2.isBlock (hblockOf r hr).1
  · rw [history?_of_reads hreads, rows_eq_flatMap, List.flatMap_map]
    exact mapM_flatMap_of_ok fun r hr => (hblockOf r hr).2.read

/-- A number of commits that the runs have, the cap allows and a fetch can hold is shown at least, and never more than
the cap. -/
theorem Database.Regular.exists_load (h : Regular names runs results catalog)
    (hreads : Reads files s names runs results) (hids : catalog.ids ≠ []) (hnodup : catalog.ids.Nodup) {k : Nat}
    (hpos : 1 ≤ k) (hcap : k ≤ c.maxCommits.toNat) (hruns : k ≤ (keptRuns runs).length)
    (hfits : k * catalog.size ≤ UInt32.size - 1) :
    ∃ count series, s.load files c catalog = .ok (some (count, series)) ∧
      k ≤ series.size ∧ series.size ≤ c.maxCommits.toNat := by
  obtain ⟨blocks, hlength, hblocks, hdistinct, hhistory⟩ := h.exists_blocks hreads hids
  have hload := load_of_history (c := c) hhistory (Nat.le_trans hpos hcap) (Catalog.size_pos_iff.2 hids)
  have hlimit : k * catalog.size ≤ recordLimit c.maxCommits.toNat catalog.size := by
    rw [recordLimit_eq]
    exact Nat.le_min.2 ⟨Nat.mul_le_mul_right _ hcap, hfits⟩
  have hleast := Series.le_size_organize_blocks hids hnodup hblocks hdistinct (hlength ▸ hruns) hlimit hcap
  set records := (blocks.flatMap (·.2)).take (recordLimit c.maxCommits.toNat catalog.size)
  have hsize := Series.size_organize records catalog c.maxCommits.toNat
  have hne : records ≠ [] := by
    intro hnone
    have hnothing : (Record.completeCommits records catalog).length = 0 := by
      rw [hnone]
      rfl
    rw [hsize, hnothing, Nat.min_zero] at hleast
    exact absurd hleast (Nat.not_le.2 hpos)
  exact ⟨_, _, hload.trans (congrArg _ (loaded_of_ne_nil hne catalog _)), hleast, hsize ▸ Nat.min_le_left _ _⟩

section Loaded

variable {count : Nat} {series : Series} (hopen : Store.open files c.database = .ok s)
  (hload : s.load files c catalog = .ok (some (count, series)))
include hopen hload

theorem readSeries_of_load : readSeries files c catalog = .ok (.loaded count series) := by
  unfold readSeries
  rw [hopen]
  dsimp only
  rw [hload]

theorem generateCharts_of_few (hfew : series.size < 2) :
    (generateCharts files c catalog).2 = .ok (.insufficientData series.size) := by
  rw [generateCharts_eq_charted, readSeries_of_load hopen hload]
  unfold charted
  dsimp only
  rw [if_pos hfew]

theorem generateCharts_of_many (hmany : 2 ≤ series.size) :
    ∃ report, (generateCharts files c catalog).2 = .ok (.completed report) := by
  rw [generateCharts_eq_charted, readSeries_of_load hopen hload]
  unfold charted
  dsimp only
  rw [if_neg (Nat.not_lt.2 hmany)]
  exact ⟨_, rfl⟩

end Loaded

/-- A cap of one leaves too few commits for a chart, however many runs there are. -/
theorem generateCharts_of_single (hopen : Store.open files c.database = .ok s)
    (hreads : Reads files s names runs results) (hregular : Regular names runs results catalog)
    (hids : catalog.ids ≠ []) (hnodup : catalog.ids.Nodup) (hfits : catalog.size ≤ UInt32.size - 1)
    (hruns : keptRuns runs ≠ []) (hcap : c.maxCommits = 1) :
    (generateCharts files c catalog).2 = .ok (.insufficientData 1) := by
  have hone : c.maxCommits.toNat = 1 := congrArg UInt64.toNat hcap
  obtain ⟨count, series, hload, hleast, hmost⟩ := hregular.exists_load hreads hids hnodup (Nat.le_refl 1)
    (Nat.le_of_eq hone.symm) (List.length_pos_iff.2 hruns) (by rwa [Nat.one_mul])
  have hsize : series.size = 1 := Nat.le_antisymm (hone ▸ hmost) hleast
  rw [generateCharts_of_few hopen hload (hsize ▸ Nat.lt_succ_self 1), hsize]

/-- **Charts of a regular history**: with two runs that count and accepted settings, charts are drawn unless the cap is
one; then there are too few commits for a chart. -/
theorem generateCharts_of_regular (hvalid : c.validate = .ok ()) (hopen : Store.open files c.database = .ok s)
    (hreads : Reads files s names runs results) (hregular : Regular names runs results .reference)
    (htwo : 2 ≤ (keptRuns runs).length) :
    (c.maxCommits ≠ 1 → ∃ report, (generateCharts files c .reference).2 = .ok (.completed report)) ∧
    (c.maxCommits = 1 → (generateCharts files c .reference).2 = .ok (.insufficientData 1)) := by
  have hids : Catalog.reference.ids ≠ [] := by decide
  have hnodup : Catalog.reference.ids.Nodup := by decide
  refine ⟨fun hmany => ?_, generateCharts_of_single hopen hreads hregular hids hnodup (by decide) ?_⟩
  · have hzero : c.maxCommits.toNat ≠ 0 := fun h => (Config.validate_eq_ok_iff.1 hvalid).2.1 (UInt64.toNat_inj.1 h)
    have hone : c.maxCommits.toNat ≠ 1 := fun h => hmany (UInt64.toNat_inj.1 h)
    have hcap : 2 ≤ c.maxCommits.toNat := by omega
    -- two commits have ten rows, which the largest fetch holds
    obtain ⟨count, series, hload, hleast, -⟩ :=
      hregular.exists_load hreads hids hnodup (by decide) hcap htwo (by decide)
    exact generateCharts_of_many hopen hload hleast
  · exact List.length_pos_iff.1 (Nat.le_of_succ_le htwo)

section Pair

/-- Two runs of the five tests. -/
def pair : Database := Database.applyAll {}
  [.createRuns, .createResults,
    .addRun none (.text "2026-01-02") (.text "new")
      [(.integer 1, .text "a", .integer 21), (.integer 2, .text "b", .integer 22), (.integer 3, .text "c", .integer 23),
        (.integer 4, .text "d", .integer 24), (.integer 5, .text "e", .integer 25)],
    .addRun none (.text "2026-01-01") (.text "old")
      [(.integer 1, .text "a", .integer 11), (.integer 2, .text "b", .integer 12), (.integer 3, .text "c", .integer 13),
        (.integer 4, .text "d", .integer 14), (.integer 5, .text "e", .integer 15)]]

def pairRuns : SortedMap Int64 RunRow := (pair.runs.map Table.rows).getD ∅

def pairResults : SortedMap Int64 ResultRow := (pair.results.map Table.rows).getD ∅

theorem reads_pair : Reads (onDisk pair) diskStore {} pairRuns pairResults := reads_onDisk rfl rfl

theorem keptRuns_pair : keptRuns pairRuns =
    [(1, ⟨.text "2026-01-02", .text "new"⟩), (2, ⟨.text "2026-01-01", .text "old"⟩)] :=
  keptRuns_eq_of_pairwise (.refl _) (by decide +kernel)

theorem regular_pair : Regular {} pairRuns pairResults .reference := by
  refine ⟨fun r hr => ?_, ?_⟩
  · rw [keptRuns_pair] at hr
    simp only [List.mem_cons, List.not_mem_nil, or_false] at hr
    rcases hr with rfl | rfl
    · exact ⟨[⟨"new", 1, "a", 21⟩, ⟨"new", 2, "b", 22⟩, ⟨"new", 3, "c", 23⟩, ⟨"new", 4, "d", 24⟩, ⟨"new", 5, "e", 25⟩],
        by rfl, .refl _⟩
    · exact ⟨[⟨"old", 1, "a", 11⟩, ⟨"old", 2, "b", 12⟩, ⟨"old", 3, "c", 13⟩, ⟨"old", 4, "d", 14⟩, ⟨"old", 5, "e", 15⟩],
        by rfl, .refl _⟩
  · rw [keptRuns_pair]
    decide

/-- Settings for the database on the disk with a cap. -/
def capped (maxCommits : UInt64) : Config := { database := ⟨"p.db"⟩, maxCommits }

theorem open_pair : Store.open (onDisk pair) ⟨"p.db"⟩ = .ok diskStore := by rfl

theorem two_le_length_keptRuns_pair : 2 ≤ (keptRuns pairRuns).length := by
  rw [keptRuns_pair]
  decide

/-- For two commits two runs suffice. -/
theorem generateCharts_of_regular_pair :
    (capped 2).validate = .ok () ∧ Store.open (onDisk pair) (capped 2).database = .ok diskStore ∧
      Reads (onDisk pair) diskStore {} pairRuns pairResults ∧ Regular {} pairRuns pairResults .reference ∧
      2 ≤ (keptRuns pairRuns).length ∧
      ∃ report, (generateCharts (onDisk pair) (capped 2) .reference).2 = .ok (.completed report) := by
  have hcharts := (generateCharts_of_regular (c := capped 2) rfl open_pair reads_pair regular_pair
    two_le_length_keptRuns_pair).1 (by decide)
  exact ⟨rfl, open_pair, reads_pair, regular_pair, two_le_length_keptRuns_pair, hcharts⟩

/-- For one commit they do not, although a cap of one is accepted. -/
theorem generateCharts_insufficient_of_cap :
    ¬ ∀ (files : Files) (s : Store) (names : Names) (runs : SortedMap Int64 RunRow)
      (results : SortedMap Int64 ResultRow) (c : Config),
      c.validate = .ok () → Store.open files c.database = .ok s → Reads files s names runs results →
      Regular names runs results .reference → 2 ≤ (keptRuns runs).length →
      ∀ commits, (generateCharts files c .reference).2 ≠ .ok (.insufficientData commits) := by
  intro hclaim
  have hruns : keptRuns pairRuns ≠ [] := List.length_pos_iff.1 (Nat.le_of_succ_le two_le_length_keptRuns_pair)
  exact hclaim (onDisk pair) diskStore {} pairRuns pairResults (capped 1) rfl open_pair reads_pair regular_pair
    two_le_length_keptRuns_pair 1
    (generateCharts_of_single open_pair reads_pair regular_pair (by decide) (by decide) (by decide) hruns rfl)

end Pair

end CommitCharts
