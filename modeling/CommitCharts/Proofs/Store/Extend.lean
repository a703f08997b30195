import CommitCharts.Proofs.Series.Extend
import CommitCharts.Proofs.Store.Recency

/-!
# CommitCharts.Proofs.Store.Extend — charts grow with the cap

More wanted commits mean more rows that are read.  The rows of a run stand together, so if no two runs are of one
commit, only the commit that was read last may get more of them.  Hence a chart of more commits begins with the
commits of a smaller one, and their values stay (`load_extends`), wherever the smaller one was cut off.
-/

namespace CommitCharts

namespace Database

/-- Whether a result is of a test. -/
def ResultRow.isTest (id : TestId) (r : ResultRow) : Bool :=
  match r.testId with
  | .integer n => n.toInt == id.toNat
  | _ => false

/-- A commit has results of one run at most, and a run has one result at most of each test of the catalog. -/
structure MeasuredOnce (runs : SortedMap Int64 RunRow) (results : SortedMap Int64 ResultRow) (catalog : Catalog) :
    Prop where
  run : ∀ commit, commit ≠ "" → ∀ r q, Measures runs results commit r → Measures runs results commit q → r = q
  test : ∀ r ∈ keptRuns runs, ∀ e ∈ resultsOf results r.1, ∀ f ∈ resultsOf results r.1, ∀ id ∈ catalog.ids,
    e.2.isTest id = true → f.2.isTest id = true → e.1 = f.1

variable {names : Names} {runs : SortedMap Int64 RunRow} {results : SortedMap Int64 ResultRow} {catalog : Catalog}
  {a b c : Joined}

theorem ResultRow.isTest_iff {id : TestId} {r : ResultRow} : r.isTest id = true ↔ Stores r.testId id.toNat := by
  unfold isTest Stores
  cases r.testId <;> simp

/-! ### Rows of one run -/

/-- Between two rows of one run there are only rows of this run. -/
theorem source_eq_of_between (ha : a ∈ rows runs results) (hb : b ∈ rows runs results) (hab : a.order b = .lt)
    (hbc : b.order c = .lt) (hsame : a.source = c.source) : b.source = a.source := by
  have hfirst := recency_of_order hab
  have hsecond := recency_of_order hbc
  rw [← hsame] at hsecond
  have hid : b.runId = a.runId := eq_of_recency_eq (@Std.OrientedCmp.isLE_antisymm _ recency _ _ _ hfirst hsecond)
  have hruna : runs.get? a.runId = some a.run := (mem_keptRuns.1 (mem_rows.1 ha).1).1
  have hrunb : runs.get? b.runId = some b.run := (mem_keptRuns.1 (mem_rows.1 hb).1).1
  rw [hid, hruna] at hrunb
  exact Prod.ext hid (Option.some.inj hrunb).symm

/-- Rows of one commit are of one run. -/
theorem MeasuredOnce.source_eq (h : MeasuredOnce runs results catalog) (ha : a ∈ rows runs results)
    (hb : b ∈ rows runs results) {commit : String} (hacommit : a.run.commit = .text commit)
    (hbcommit : b.run.commit = .text commit) : a.source = b.source := by
  have hname : commit ≠ "" := (RunRow.isKept_iff hacommit).1 (mem_keptRuns.1 (mem_rows.1 ha).1).2
  exact h.run commit hname _ _ (measures_of_mem_rows ha hacommit) (measures_of_mem_rows hb hbcommit)

/-- A commit has one row of a test. -/
theorem MeasuredOnce.eq_of_isTest (h : MeasuredOnce runs results catalog) (ha : a ∈ rows runs results)
    (hb : b ∈ rows runs results) (hsame : a.source = b.source) {id : TestId} (hid : id ∈ catalog.ids)
    (hatest : a.result.isTest id = true) (hbtest : b.result.isTest id = true) : a = b := by
  obtain ⟨hkept, harow⟩ := mem_rows.1 ha
  obtain ⟨-, hbrow⟩ := mem_rows.1 hb
  have hbresult : (b.resultId, b.result) ∈ resultsOf results a.source.1 := hsame ▸ (mem_rowsOf.1 hbrow).2
  have hnumber := h.test a.source hkept _ (mem_rowsOf.1 harow).2 _ hbresult id hid hatest hbtest
  exact Joined.eq_of_resultId_eq (mem_joined.2 (mem_rows.1 ha)) (mem_joined.2 (mem_rows.1 hb)) hnumber

/-! ### Records of the first rows and of those behind -/

/-- Two commits that were sighted one after the other have rows one before the other. -/
theorem exists_rows_of_sightedBefore {front : List Joined} {xs : List Record}
    (hxs : front.mapM (Joined.record names) = .ok xs) {first second : String}
    (h : Record.SightedBefore xs first second) :
    ∃ j k, [j, k].Sublist front ∧ j.run.commit = .text first ∧ k.run.commit = .text second := by
  obtain ⟨p, q, r, hsplit, -, -⟩ := h
  have hpair : [first, second].Sublist (xs.map (·.commit)) := by
    rw [hsplit]
    refine List.Sublist.trans ?_ (List.sublist_append_right p _)
    have hbehind : [second].Sublist (q ++ second :: r) := List.singleton_sublist.2 (by simp)
    exact hbehind.cons_cons first
  have hcommits : [TextCell.text first, .text second].Sublist (front.map (·.run.commit)) := by
    rw [map_commit_of_records hxs]
    exact hpair.map TextCell.text
  obtain ⟨pair, hsub, hpair⟩ := List.sublist_map_iff.1 hcommits
  obtain ⟨j, rest, rfl, hj, hrest⟩ := List.map_eq_cons_iff.1 hpair.symm
  obtain ⟨k, rest, rfl, hk, hnil⟩ := List.map_eq_cons_iff.1 hrest
  obtain rfl := List.map_eq_nil_iff.1 hnil
  exact ⟨j, k, hsub, hj, hk⟩

section Split

variable {front back rest : List Joined} {xs ys : List Record} (hrows : rows runs results = front ++ back ++ rest)
include hrows

theorem mem_rows_of_split (ha : a ∈ front ++ back) : a ∈ rows runs results := by
  rw [hrows]
  exact List.mem_append_left rest ha

theorem order_of_split : front.Pairwise (fun a b => a.order b = .lt) ∧
    ∀ a ∈ front, ∀ b ∈ back, a.order b = .lt := by
  have hpairwise := rows_pairwise runs results
  rw [hrows] at hpairwise
  obtain ⟨hfront, -, hbehind⟩ := List.pairwise_append.1 (List.pairwise_append.1 hpairwise).1
  exact ⟨hfront, hbehind⟩

theorem onlyLastContinues_of_rows (h : MeasuredOnce runs results catalog)
    (hxs : front.mapM (Joined.record names) = .ok xs) (hys : back.mapM (Joined.record names) = .ok ys) :
    Record.OnlyLastContinues xs ys := by
  intro seen last hsplit commit hcommit hagain
  have hsighted := Record.sightings_pairwise xs
  have hnodup := Record.nodup_sightings xs
  rw [hsplit] at hsighted hnodup
  have hlast := List.mem_singleton_self last
  obtain ⟨j, k, hjk, hj, hk⟩ :=
    exists_rows_of_sightedBefore hxs ((List.pairwise_append.1 hsighted).2.2 commit hcommit last hlast)
  obtain ⟨x, hx, rfl⟩ := List.mem_map.1 hagain
  obtain ⟨i, hi, hix⟩ := exists_row_of_mem hys hx
  obtain ⟨hfront, hbehind⟩ := order_of_split hrows
  have hkfront : k ∈ front := hjk.subset (List.mem_cons_of_mem j (List.mem_cons_self ..))
  have hjrows := mem_rows_of_split hrows (List.mem_append_left back (hjk.subset (List.mem_cons_self ..)))
  have hkrows := mem_rows_of_split hrows (List.mem_append_left back hkfront)
  have hirows := mem_rows_of_split hrows (List.mem_append_right front hi)
  have hjk' : j.order k = .lt := (List.pairwise_cons.1 (hfront.sublist hjk)).1 k (List.mem_cons_self ..)
  have hji := h.source_eq hjrows hirows hj (Joined.commit_of_record hix)
  -- the row of the last commit stands between two rows of one run, so it is of the same commit
  have hrun : k.run = j.run :=
    congrArg Prod.snd (source_eq_of_between hjrows hkrows hjk' (hbehind k hkfront i hi) hji)
  rw [hrun, hj] at hk
  exact (List.nodup_append.1 hnodup).2.2 x.commit hcommit last hlast (TextCell.text.inj hk)

theorem noneAgain_of_rows (h : MeasuredOnce runs results catalog)
    (hxs : front.mapM (Joined.record names) = .ok xs) (hys : back.mapM (Joined.record names) = .ok ys) :
    Record.NoneAgain catalog xs ys := by
  intro r hr q hq hcommit htest hid
  obtain ⟨j, hj, hjr⟩ := exists_row_of_mem hxs hr
  obtain ⟨i, hi, hiq⟩ := exists_row_of_mem hys hq
  have hjrows := mem_rows_of_split hrows (List.mem_append_left back hj)
  have hirows := mem_rows_of_split hrows (List.mem_append_right front hi)
  have hsource := h.source_eq hjrows hirows (Joined.commit_of_record hjr) (hcommit ▸ Joined.commit_of_record hiq)
  have hjtest := ResultRow.isTest_iff.2 (Row.record_eq_ok_iff.1 hjr).testId
  have hitest := ResultRow.isTest_iff.2 (Row.record_eq_ok_iff.1 hiq).testId
  rw [← htest] at hitest
  obtain rfl := h.eq_of_isTest hjrows hirows hsource hid hjtest hitest
  -- a row does not stand before itself
  have hself := (order_of_split hrows).2 j hj j hi
  rw [@Std.ReflCmp.compare_self _ Joined.order] at hself
  cases hself

end Split

end Database

namespace Store

open Database

variable {files : Files} {s : Store} {names : Names} {runs : SortedMap Int64 RunRow}
  {results : SortedMap Int64 ResultRow} {c wider : Config} {catalog : Catalog}

/-- A catalog without tests leaves nothing to fetch. -/
theorem size_pos_of_fetch {commits : Nat} {records : List Record}
    (h : s.fetchForCommits files commits catalog = .ok records) : 0 < catalog.size := by
  rcases Nat.eq_zero_or_pos catalog.size with hzero | hpos
  · unfold fetchForCommits at h
    rw [recordLimit_eq, hzero, Nat.mul_zero, Nat.zero_min] at h
    cases h
  · exact hpos

/-- Fewer wanted commits give the first of the same records. -/
theorem fetchForCommits_of_le (hreads : Reads files s names runs results) {n m : Nat} (hn : 1 ≤ n) (hle : n ≤ m)
    {records : List Record} (hfetch : s.fetchForCommits files m catalog = .ok records) :
    s.fetchForCommits files n catalog = .ok (records.take (recordLimit n catalog.size)) := by
  have htake : ((rows runs results).take (recordLimit m catalog.size)).take (recordLimit n catalog.size) =
      (rows runs results).take (recordLimit n catalog.size) := by
    rw [List.take_take, Nat.min_eq_left (recordLimit_mono hle catalog.size)]
  have hfirst := mapM_take_of_ok (rows_of_fetch hreads hfetch) (recordLimit n catalog.size)
  rw [htake] at hfirst
  unfold fetchForCommits
  rw [fetchRecent_of_reads hreads (recordLimit_pos hn (size_pos_of_fetch hfetch)), hfirst]
  rfl

/-- **Charts grow with the cap**: if each commit was measured in one run and each of its tests once, and a reading for
some commits succeeds, then so does a reading for fewer.  It shows the first of the same commits, with the same
values. -/
theorem load_extends (hreads : Reads files s names runs results) (honce : MeasuredOnce runs results catalog)
    (hcommits : 1 ≤ c.maxCommits.toNat) (hle : c.maxCommits.toNat ≤ wider.maxCommits.toNat)
    {result : Option (Nat × Series)} (hload : s.load files wider catalog = .ok result) :
    (result = none ∧ s.load files c catalog = .ok none) ∨
    ∃ count series count' series', s.load files c catalog = .ok (some (count, series)) ∧
      result = some (count', series') ∧ series.commits <+: series'.commits ∧
      ∀ commit ∈ series.commits, ∀ id ∈ catalog.ids, series.value commit id = series'.value commit id := by
  obtain ⟨records, hfetch, rfl⟩ := load_eq_ok_iff.1 hload
  have hless := fetchForCommits_of_le hreads hcommits hle hfetch
  have hlimit := recordLimit_pos hcommits (size_pos_of_fetch hfetch)
  have hrecords := rows_of_fetch hreads hfetch
  set limit := recordLimit c.maxCommits.toNat catalog.size
  set limit' := recordLimit wider.maxCommits.toNat catalog.size
  rcases eq_or_ne records [] with rfl | hne
  · refine .inl ⟨rfl, load_eq_ok_iff.2 ⟨_, hless, ?_⟩⟩
    rw [List.take_nil]
    rfl
  · have hne' : records.take limit ≠ [] := fun h => (List.take_eq_nil_iff.1 h).elim (Nat.ne_of_gt hlimit) hne
    have hrows : rows runs results = ((rows runs results).take limit').take limit ++
        ((rows runs results).take limit').drop limit ++ (rows runs results).drop limit' := by
      rw [List.take_append_drop, List.take_append_drop]
    have hfirst := mapM_take_of_ok hrecords limit
    have hbehind := mapM_drop_of_ok hrecords limit
    have hextends := Series.organize_extends (onlyLastContinues_of_rows hrows honce hfirst hbehind)
      (noneAgain_of_rows hrows honce hfirst hbehind) hle
    rw [List.take_append_drop] at hextends
    exact .inr ⟨_, _, _, _, load_eq_ok_iff.2 ⟨_, hless, loaded_of_ne_nil hne' catalog _⟩,
      loaded_of_ne_nil hne catalog _, hextends.1, hextends.2⟩

section Gap

/-- Three runs of two tests; the one in the middle was broken off. -/
def gap : Database := Database.applyAll {}
  [.createRuns, .createResults,
    .addRun none (.text "2026-01-03") (.text "new")
      [(.integer 1, .text "a", .integer 31), (.integer 2, .text "b", .integer 32)],
    .addRun none (.text "2026-01-02") (.text "broken") [(.integer 1, .text "a", .integer 21)],
    .addRun none (.text "2026-01-01") (.text "old")
      [(.integer 1, .text "a", .integer 11), (.integer 2, .text "b", .integer 12)]]

def gapRuns : SortedMap Int64 RunRow := (gap.runs.map Table.rows).getD ∅

def gapResults : SortedMap Int64 ResultRow := (gap.results.map Table.rows).getD ∅

def gapRecords : List Record :=
  [⟨"new", 1, "a", 31⟩, ⟨"new", 2, "b", 32⟩, ⟨"broken", 1, "a", 21⟩, ⟨"old", 1, "a", 11⟩, ⟨"old", 2, "b", 12⟩]

theorem reads_gap : Reads (onDisk gap) diskStore {} gapRuns gapResults := reads_onDisk rfl rfl

theorem history?_gap : diskStore.history? (onDisk gap) = .ok gapRecords := by
  rw [history?_of_reads reads_gap, rows_eq_joined (by decide +kernel)]
  rfl

theorem measuredOnce_gap : MeasuredOnce gapRuns gapResults twoTests := by
  refine ⟨fun commit _ r q hr hq => ?_, fun r hr => ?_⟩
  · have hall : ∀ e ∈ gapRuns.entries, ∀ f ∈ gapRuns.entries, e.2.commit = f.2.commit → e.1 = f.1 := by decide +kernel
    have hid := hall r (SortedMap.mem_entries.2 hr.listed) q (SortedMap.mem_entries.2 hq.listed)
      (hr.carries.trans hq.carries.symm)
    have hlisted := hq.listed
    rw [← hid, hr.listed] at hlisted
    exact Prod.ext hid (Option.some.inj hlisted)
  · have hall : ∀ r ∈ gapRuns.entries, ∀ e ∈ resultsOf gapResults r.1, ∀ f ∈ resultsOf gapResults r.1,
        twoTests.ids.any (fun id => e.2.isTest id && f.2.isTest id) = true → e.1 = f.1 := by
      decide +kernel
    intro e he f hf id hid hetest hftest
    refine hall r (SortedMap.mem_entries.2 (mem_keptRuns.1 hr).1) e he f hf ?_
    exact List.any_eq_true.2 ⟨id, hid, Bool.and_eq_true_iff.2 ⟨hetest, hftest⟩⟩

def gapSeries : Series := Series.organize gapRecords twoTests 3

def cutSeries : Series := Series.organize (gapRecords.take 4) twoTests 2

/-- For two commits the old run is cut off after its first row, and only the new one is shown. -/
theorem load_extends_gap :
    Reads (onDisk gap) diskStore {} gapRuns gapResults ∧ MeasuredOnce gapRuns gapResults twoTests ∧
      diskStore.load (onDisk gap) { maxCommits := 3 } twoTests = .ok (some (5, gapSeries)) ∧
      gapSeries.commits = ["new", "old"] ∧ cutSeries.commits = ["new"] ∧
      diskStore.load (onDisk gap) { maxCommits := 2 } twoTests = .ok (some (4, cutSeries)) ∧
      cutSeries.commits <+: gapSeries.commits ∧
      ∀ commit ∈ cutSeries.commits, ∀ id ∈ twoTests.ids, cutSeries.value commit id = gapSeries.value commit id := by
  have hwide : diskStore.load (onDisk gap) { maxCommits := 3 } twoTests = .ok (some (5, gapSeries)) :=
    load_of_history history?_gap (by decide) (by decide)
  have hcut : diskStore.load (onDisk gap) { maxCommits := 2 } twoTests = .ok (some (4, cutSeries)) :=
    load_of_history history?_gap (by decide) (by decide)
  rcases load_extends (c := { maxCommits := 2 }) reads_gap measuredOnce_gap (by decide) (by decide) hwide with
    ⟨hnone, -⟩ | ⟨count, series, count', series', hload, hresult, hprefix, hvalues⟩
  · cases hnone
  · rw [hcut] at hload
    cases hload
    cases hresult
    exact ⟨reads_gap, measuredOnce_gap, hwide, by decide +kernel, by decide +kernel, hcut, hprefix, hvalues⟩

end Gap

end Store

end CommitCharts
