import CommitCharts.Proofs.Store.Tables

/-!
# CommitCharts.Proofs.Store.Fetch — what a fetch gives

A limit cuts the rows of a store at one place.  As the rows come run by run, all runs before that place are fetched
whole, the run at that place in part, and all others not at all (`fetchRecent_structure`).
-/

namespace CommitCharts

section Cut

variable {α β : Type} {g : α → List β}

/-- A cut through a list of groups leaves whole groups and a first part of the next one. -/
theorem exists_take_flatMap {xs : List α} (hgroups : ∀ x ∈ xs, g x ≠ []) (hne : xs ≠ []) {n : Nat} (hn : 0 < n) :
    ∃ whole last rest head, xs = whole ++ last :: rest ∧ head ≠ [] ∧ head <+: g last ∧
      (xs.flatMap g).take n = whole.flatMap g ++ head := by
  induction xs generalizing n with
  | nil => exact absurd rfl hne
  | cons x xs ih =>
    have hx : g x ≠ [] := hgroups x (List.mem_cons_self ..)
    rw [List.flatMap_cons]
    rcases Nat.lt_or_ge (g x).length n with hwhole | hpart
    · -- the first group is taken whole, and there is room for more
      by_cases hempty : xs = []
      · refine ⟨[], x, [], g x, by rw [hempty]; rfl, hx, List.prefix_refl _, ?_⟩
        rw [hempty, List.flatMap_nil, List.append_nil, List.take_of_length_le (Nat.le_of_lt hwhole)]
        rfl
      · obtain ⟨whole, last, rest, head, rfl, hhead, hprefix, htake⟩ :=
          ih (fun y hy => hgroups y (List.mem_cons_of_mem x hy)) hempty (Nat.sub_pos_of_lt hwhole)
        refine ⟨x :: whole, last, rest, head, rfl, hhead, hprefix, ?_⟩
        rw [List.take_append, List.take_of_length_le (Nat.le_of_lt hwhole), htake, List.flatMap_cons, List.append_assoc]
    · refine ⟨[], x, xs, (g x).take n, rfl, ?_, List.take_prefix n (g x), ?_⟩
      · exact fun h => (List.take_eq_nil_iff.1 h).elim (Nat.ne_of_gt hn) hx
      · rw [List.take_append_of_le_length hpart]
        rfl

/-- Empty groups can be left out. -/
theorem flatMap_filter_of_eq_nil {p : α → Bool} {xs : List α} (h : ∀ x ∈ xs, p x = false → g x = []) :
    (xs.filter p).flatMap g = xs.flatMap g := by
  induction xs with
  | nil => rfl
  | cons x xs ih =>
    have hrest := ih fun y hy => h y (List.mem_cons_of_mem x hy)
    rw [List.flatMap_cons, List.filter_cons]
    by_cases hx : p x = true
    · rw [if_pos hx, List.flatMap_cons, hrest]
    · rw [if_neg hx, h x (List.mem_cons_self ..) (Bool.eq_false_iff.2 hx), hrest]
      rfl

end Cut

namespace Database

variable {runs : SortedMap Int64 RunRow} {results : SortedMap Int64 ResultRow}

/-- The runs that count and have a result, most recent first. -/
def measuredRuns (runs : SortedMap Int64 RunRow) (results : SortedMap Int64 ResultRow) : List (Int64 × RunRow) :=
  (keptRuns runs).filter fun r => !(rowsOf results r).isEmpty

theorem mem_measuredRuns {r : Int64 × RunRow} :
    r ∈ measuredRuns runs results ↔ r ∈ keptRuns runs ∧ rowsOf results r ≠ [] := by
  unfold measuredRuns
  rw [List.mem_filter]
  simp

theorem measuredRuns_pairwise (runs : SortedMap Int64 RunRow) (results : SortedMap Int64 ResultRow) :
    (measuredRuns runs results).Pairwise fun a b => recency b a = .lt :=
  (keptRuns_pairwise runs).filter _

theorem rows_eq_flatMap_measuredRuns (runs : SortedMap Int64 RunRow) (results : SortedMap Int64 ResultRow) :
    rows runs results = (measuredRuns runs results).flatMap (rowsOf results) := by
  rw [rows_eq_flatMap]
  refine (flatMap_filter_of_eq_nil fun r _ hr => ?_).symm
  simpa using hr

theorem length_rows (runs : SortedMap Int64 RunRow) (results : SortedMap Int64 ResultRow) :
    (rows runs results).length = (joined runs results).length :=
  (List.mergeSort_perm _ _).length_eq

/-- The rows of a run come by their numbers. -/
theorem rowsOf_pairwise_lt (results : SortedMap Int64 ResultRow) (r : Int64 × RunRow) :
    (rowsOf results r).Pairwise fun a b => a.resultId < b.resultId := by
  refine List.pairwise_map.2 ((results.ascending.filter _).imp fun {a b} hab => ?_)
  exact Std.compare_eq_lt.1 hab

/-- Rows that are cut off in the middle: all rows of some runs, the most recent ones that have any, and then some
rows of the next run, but not none. -/
structure CutAt (runs : SortedMap Int64 RunRow) (results : SortedMap Int64 ResultRow) (whole : List (Int64 × RunRow))
    (last : Int64 × RunRow) (head : List Joined) : Prop where
  kept : ∀ r ∈ whole ++ [last], r ∈ keptRuns runs
  distinct : (whole ++ [last]).Nodup
  descending : (whole ++ [last]).Pairwise fun a b => recency b a = .lt
  started : head ≠ []
  part : head <+: rowsOf results last
  older : ∀ r ∈ keptRuns runs, rowsOf results r ≠ [] → r ∉ whole ++ [last] → recency r last = .lt

/-- Wherever rows are cut off, whole runs and a part of one run are left. -/
theorem exists_cutAt (hmeasured : measuredRuns runs results ≠ []) {limit : Nat} (hlimit : 0 < limit) :
    ∃ whole last head, CutAt runs results whole last head ∧
      (rows runs results).take limit = whole.flatMap (rowsOf results) ++ head := by
  obtain ⟨whole, last, rest, head, hsplit, hstarted, hpart, htake⟩ :=
    exists_take_flatMap (fun r hr => (mem_measuredRuns.1 hr).2) hmeasured hlimit
  have hlist : measuredRuns runs results = (whole ++ [last]) ++ rest := by
    rw [hsplit, List.append_assoc]
    rfl
  have hpairwise := measuredRuns_pairwise runs results
  rw [hlist] at hpairwise
  obtain ⟨hdescending, -, hafter⟩ := List.pairwise_append.1 hpairwise
  have hlisted : ∀ r ∈ whole ++ [last], r ∈ measuredRuns runs results := fun r hr => by
    rw [hlist]
    exact List.mem_append_left rest hr
  refine ⟨whole, last, head, ⟨fun r hr => (mem_measuredRuns.1 (hlisted r hr)).1, nodup_of_recency hdescending,
    hdescending, hstarted, hpart, fun r hr hrows hout => ?_⟩, ?_⟩
  · have hmem : r ∈ (whole ++ [last]) ++ rest := hlist ▸ mem_measuredRuns.2 ⟨hr, hrows⟩
    have hrest : r ∈ rest := (List.mem_append.1 hmem).resolve_left hout
    exact hafter last (List.mem_append_right _ (List.mem_singleton_self last)) r hrest
  · rw [rows_eq_flatMap_measuredRuns, htake]

/-- Records are read off rows of runs whose commit has a name. -/
theorem commit_ne_of_rows {limit : Nat} {names : Names} {records : List Record}
    (h : ((rows runs results).take limit).mapM (Joined.record names) = .ok records) :
    ∀ x ∈ records, x.commit ≠ "" := by
  intro x hx
  obtain ⟨j, hj, hjx⟩ := exists_row_of_mem h hx
  have hkept := (mem_keptRuns.1 (mem_rows.1 (List.mem_of_mem_take hj)).1).2
  exact (RunRow.isKept_iff (Joined.commit_of_record hjx)).1 hkept

end Database

namespace Store

open Database

variable {files : Files} {s : Store} {names : Names} {runs : SortedMap Int64 RunRow}
  {results : SortedMap Int64 ResultRow}

/-- **What a fetch gives**: as many records as the limit allows, each with a commit that has a name.  If no run that
counts has a result, there are none.  Otherwise they are all rows of the most recent runs, run after run, and then a
first part of the rows of the next run, the rows of each run by number; every run with results that is left out is
older.  A record has the texts and the numbers of its row. -/
theorem fetchRecent_structure (hreads : Reads files s names runs results) {limit : Nat} (hlimit : 1 ≤ limit)
    {records : List Record} (hfetch : s.fetchRecent files limit = .ok records) :
    records.length = min limit (joined runs results).length ∧
    (∀ x ∈ records, x.commit ≠ "") ∧
    (∀ r, (rowsOf results r).Pairwise fun a b => a.resultId < b.resultId) ∧
    (records = [] ∧ (∀ r ∈ keptRuns runs, rowsOf results r = []) ∨
      ∃ whole last head, CutAt runs results whole last head ∧
        List.Forall₂ (fun j x => j.row.Tells x) (whole.flatMap (rowsOf results) ++ head) records) := by
  have hrecords := rows_of_fetch hreads hfetch
  have hall := mapM_eq_ok_iff.1 hrecords
  refine ⟨?_, commit_ne_of_rows hrecords, rowsOf_pairwise_lt results, ?_⟩
  · rw [← hall.length_eq, List.length_take, length_rows]
  · by_cases hmeasured : measuredRuns runs results = []
    · have hnone : rows runs results = [] := by
        rw [rows_eq_flatMap_measuredRuns, hmeasured]
        rfl
      rw [hnone, List.take_nil] at hall
      refine .inl ⟨List.forall₂_nil_left_iff.1 hall, fun r hr => ?_⟩
      by_contra hrows
      have hmem := mem_measuredRuns.2 ⟨hr, hrows⟩
      rw [hmeasured] at hmem
      cases hmem
    · obtain ⟨whole, last, head, hcut, htake⟩ := exists_cutAt hmeasured hlimit
      rw [htake] at hall
      exact .inr ⟨whole, last, head, hcut, hall.imp fun _ _ h => Row.record_eq_ok_iff.1 h⟩

section Mixed

/-- Two runs of one commit at the same time, one without a time, one without a commit, and a result of no run. -/
def mixed : Database := Database.applyAll {}
  [.createRuns, .createResults,
    .addRun none (.text "2026-01-02") (.text "again")
      [(.integer 1, .text "a", .integer 10), (.integer 2, .text "b", .integer 20)],
    .addRun none (.text "2026-01-02") (.text "again") [(.integer 1, .text "a", .integer 11)],
    .addRun none .null (.text "timeless") [(.integer 1, .text "a", .integer 12)],
    .addRun none (.text "2026-01-03") .null [(.integer 1, .text "a", .null)],
    .addResult (.integer 9) (.integer 1) (.text "a") (.integer 13)]

def mixedRuns : SortedMap Int64 RunRow := (mixed.runs.map Table.rows).getD ∅

def mixedResults : SortedMap Int64 ResultRow := (mixed.results.map Table.rows).getD ∅

def mixedRecords : List Record := [⟨"again", 1, "a", 11⟩, ⟨"again", 1, "a", 10⟩]

theorem reads_mixed : Reads (onDisk mixed) diskStore {} mixedRuns mixedResults := reads_onDisk rfl rfl

theorem keptRuns_mixed : keptRuns mixedRuns =
    [(2, ⟨.text "2026-01-02", .text "again"⟩), (1, ⟨.text "2026-01-02", .text "again"⟩),
      (3, ⟨.null, .text "timeless"⟩)] :=
  keptRuns_eq_of_pairwise (.swap _ _ _) (by decide +kernel)

theorem fetchRecent_mixed : diskStore.fetchRecent (onDisk mixed) 2 = .ok mixedRecords := by
  rw [fetchRecent_of_reads reads_mixed (by decide), rows_eq_flatMap, keptRuns_mixed]
  rfl

/-- Two rows are the later of the two runs and half of the earlier one. -/
theorem fetchRecent_structure_mixed :
    Reads (onDisk mixed) diskStore {} mixedRuns mixedResults ∧ 1 ≤ 2 ∧
      diskStore.fetchRecent (onDisk mixed) 2 = .ok mixedRecords ∧
      ∃ whole last head, CutAt mixedRuns mixedResults whole last head ∧
        List.Forall₂ (fun j x => j.row.Tells x) (whole.flatMap (rowsOf mixedResults) ++ head) mixedRecords := by
  obtain ⟨-, -, -, hcases⟩ := fetchRecent_structure reads_mixed (by decide) fetchRecent_mixed
  refine ⟨reads_mixed, by decide, fetchRecent_mixed, hcases.resolve_left ?_⟩
  rintro ⟨hnone, -⟩
  cases hnone

end Mixed

end Store

end CommitCharts
