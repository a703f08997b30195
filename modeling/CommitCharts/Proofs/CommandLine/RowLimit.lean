import CommitCharts.Proofs.CommandLine.Settings
import CommitCharts.Proofs.Run
import CommitCharts.Proofs.Store.Fetch

/-!
# CommitCharts.Proofs.CommandLine.RowLimit — how many rows a run asks for

A reading asks for one row for each test at each commit.  Each of the numbers on the way to that product is kept within
32 bits by itself, which comes to keeping the product there (`load_eq_fetch`).  So a reading asks for no rows only if
there is no commit or no test to ask for, which settings of a command never come to (`rowLimit_exact`).
-/

namespace CommitCharts

open Database (keptRuns rowsOf)

namespace Store

variable {files : Files} {s : Store} {c : Config} {catalog : Catalog}

theorem recordLimit_eq_zero_iff {commits tests : Nat} : recordLimit commits tests = 0 ↔ commits = 0 ∨ tests = 0 := by
  constructor
  · intro hzero
    by_contra hnone
    obtain ⟨hcommits, htests⟩ := not_or.1 hnone
    exact Nat.ne_of_gt (recordLimit_pos (Nat.pos_of_ne_zero hcommits) (Nat.pos_of_ne_zero htests)) hzero
  · intro hnone
    rw [recordLimit_eq]
    rcases hnone with rfl | rfl <;> simp

/-- A fetch is refused for its limit if it asks for no rows, whatever the store has to tell, and for nothing else. -/
theorem fetchRecent_eq_invalidLimit_iff {limit : Nat} :
    s.fetchRecent files limit = .error .invalidLimit ↔ limit = 0 := by
  unfold fetchRecent
  by_cases hzero : limit = 0
  · rw [if_pos hzero]
    exact iff_of_true rfl hzero
  · rw [if_neg hzero, mapError_eq_error_iff]
    exact iff_of_false (by rintro ⟨_, -, ⟨⟩⟩) hzero

theorem fetchForCommits_eq_invalidLimit_iff {commits : Nat} :
    s.fetchForCommits files commits catalog = .error .invalidLimit ↔ commits = 0 ∨ catalog.size = 0 :=
  fetchRecent_eq_invalidLimit_iff.trans recordLimit_eq_zero_iff

/-- What is loaded are the rows of a fetch with the whole product, or with the largest limit if the product is beyond
it. -/
theorem load_eq_fetch (files : Files) (s : Store) (c : Config) (catalog : Catalog) :
    s.load files c catalog =
      ((s.fetchRecent files (min (c.maxCommits.toNat * catalog.size) (UInt32.size - 1))).mapError (⟨s.path, ·⟩)).map
        fun records => loaded records catalog c.maxCommits.toNat := by
  rw [← recordLimit_eq]
  unfold load loaded fetchForCommits
  cases s.fetchRecent files (recordLimit c.maxCommits.toNat catalog.size) with
  | error cause => rfl
  | ok records => cases records <;> rfl

/-- A reading fails for its limit as its fetch does. -/
theorem load_eq_invalidLimit_iff {path : Path} :
    s.load files c catalog = .error ⟨path, .invalidLimit⟩ ↔
      path = s.path ∧ (c.maxCommits.toNat = 0 ∨ catalog.size = 0) := by
  rw [load_eq_fetch, map_eq_error_iff, mapError_eq_error_iff, ← recordLimit_eq]
  constructor
  · rintro ⟨cause, hcause, hfailure⟩
    cases hfailure
    exact ⟨rfl, recordLimit_eq_zero_iff.1 (fetchRecent_eq_invalidLimit_iff.1 hcause)⟩
  · rintro ⟨rfl, hzero⟩
    exact ⟨.invalidLimit, fetchRecent_eq_invalidLimit_iff.2 (recordLimit_eq_zero_iff.2 hzero), rfl⟩

/-- A reading that asks for some rows and gets none has looked at a store without any. -/
theorem rows_of_load_eq_none (hcommits : c.maxCommits.toNat ≠ 0) (htests : catalog.size ≠ 0)
    (h : s.load files c catalog = .ok none) : ∃ answer, s.answer? files = .ok answer ∧ answer.rows = [] := by
  have hpos : 0 < recordLimit c.maxCommits.toNat catalog.size :=
    recordLimit_pos (Nat.pos_of_ne_zero hcommits) (Nat.pos_of_ne_zero htests)
  obtain ⟨records, hfetch, hnone⟩ := load_eq_ok_iff.1 h
  have hempty : records = [] := by
    by_contra hne
    rw [loaded_of_ne_nil hne] at hnone
    cases hnone
  change s.fetchRecent files (recordLimit c.maxCommits.toNat catalog.size) = .ok records at hfetch
  unfold fetchRecent at hfetch
  rw [if_neg (Nat.ne_of_gt hpos), mapError_eq_ok_iff, hempty] at hfetch
  obtain ⟨answer, hanswer, hrecent⟩ := bind_eq_ok.1 hfetch
  refine ⟨answer, hanswer, ?_⟩
  have hcut : answer.rows.take (recordLimit c.maxCommits.toNat catalog.size) = [] :=
    List.length_eq_zero_iff.1 (mapM_eq_ok_iff.1 hrecent).length_eq
  exact (List.take_eq_nil_iff.1 hcut).resolve_left (Nat.ne_of_gt hpos)

/-- If a store reads two tables and has no rows, no run that counts has a result. -/
theorem rowsOf_eq_nil_of_answer {names : Database.Names} {runs : SortedMap Int64 Database.RunRow}
    {results : SortedMap Int64 Database.ResultRow} (hreads : Reads files s names runs results)
    {answer : Database.Answer} (hanswer : s.answer? files = .ok answer) (hnone : answer.rows = []) :
    ∀ r ∈ keptRuns runs, rowsOf results r = [] := by
  rw [answer?_of_reads hreads] at hanswer
  cases hanswer
  have hrows : Database.rows runs results = [] := List.map_eq_nil_iff.1 hnone
  rw [Database.rows_eq_flatMap, List.flatMap_eq_nil_iff] at hrows
  exact hrows

theorem path_of_open {path : Path} (h : Store.open files path = .ok s) : s = ⟨path⟩ := by
  unfold Store.open at h
  split_ifs at h
  cases htarget : Target.ofPath files path with
  | error e =>
    rw [htarget] at h
    cases h
  | ok target =>
    rw [htarget] at h
    dsimp only at h
    cases hfault : target.fault? files with
    | some fault =>
      rw [hfault] at h
      cases h
    | none =>
      rw [hfault] at h
      exact (Except.ok.inj h).symm

theorem open_ne_invalidLimit (files : Files) (path : Path) : Store.open files path ≠ .error .invalidLimit := by
  unfold Store.open
  split_ifs
  · nofun
  · cases Target.ofPath files path with
    | error e => nofun
    | ok target =>
      dsimp only
      cases target.fault? files <;> nofun

end Store

/-! ### Both drivers -/

section Drivers

variable {files : Files} {c : Config} {catalog : Catalog}

/-- Only loading can find that no rows are asked for. -/
theorem readSeries_eq_invalidLimit {path : Path} (h : readSeries files c catalog = .error ⟨path, .invalidLimit⟩) :
    c.maxCommits.toNat = 0 ∨ catalog.size = 0 := by
  unfold readSeries at h
  cases hopen : Store.open files c.database with
  | error cause =>
    rw [hopen] at h
    cases cause with
    | invalidLimit => exact absurd hopen (Store.open_ne_invalidLimit files c.database)
    | notFound path => cases h
    | unavailable path reason => cases h
    | query cause => cases h
  | ok s =>
    rw [hopen] at h
    dsimp only at h
    cases hload : s.load files c catalog with
    | error failure =>
      rw [hload] at h
      cases h
      exact (Store.load_eq_invalidLimit_iff.1 hload).2
    | ok loaded? =>
      rw [hload] at h
      cases loaded? <;> cases h

theorem readSeries_eq_noData_iff :
    readSeries files c catalog = .ok .noData ↔
      ∃ s, Store.open files c.database = .ok s ∧ s.load files c catalog = .ok none := by
  unfold readSeries
  cases Store.open files c.database with
  | error cause => cases cause <;> simp
  | ok s =>
    dsimp only
    cases hload : s.load files c catalog with
    | error failure => simp [hload]
    | ok loaded? => cases loaded? <;> simp [hload]

/-- Generating ends without data, or with an error, exactly as reading does. -/
theorem generateCharts_stops_iff :
    ((generateCharts files c catalog).2 = .ok .noData ↔ readSeries files c catalog = .ok .noData) ∧
      ∀ e, (generateCharts files c catalog).2 = .error e ↔ readSeries files c catalog = .error e := by
  rw [generateCharts_eq_charted]
  cases readSeries files c catalog with
  | error e => simp [charted]
  | ok reading =>
    cases reading with
    | noData => simp [charted]
    | noStore path => simp [charted]
    | unavailable path reason => simp [charted]
    | loaded records series =>
      unfold charted
      dsimp only
      split_ifs <;> simp

end Drivers

namespace CommandLine

/-- The settings of a command are checked, and where their paths start has no say in that. -/
theorem validate_of_buildConfig {files : Files} {o : StoreOptions} {c : Config} (h : buildConfig files o = .ok c) :
    c.validate = .ok () := by
  obtain ⟨base, -, h⟩ := bind_eq_ok.1 h
  obtain ⟨⟨⟩, hvalid, h⟩ := bind_eq_ok.1 h
  obtain rfl := Except.ok.inj h
  rw [Config.validate_resolve]
  exact mapError_eq_ok_iff.1 hvalid

/-- The store of these settings has no row to tell: no run that counts has a result. -/
structure NoRows (files : Files) (c : Config) : Prop where
  answer : ∃ answer, (Store.mk c.database).answer? files = .ok answer ∧ answer.rows = []
  runs : ∀ names runs results, Store.Reads files ⟨c.database⟩ names runs results →
    ∀ r ∈ keptRuns runs, rowsOf results r = []

theorem noRows_of_noData {files : Files} {c : Config} {catalog : Catalog} (hcommits : c.maxCommits.toNat ≠ 0)
    (htests : catalog.size ≠ 0) (h : readSeries files c catalog = .ok .noData) : NoRows files c := by
  obtain ⟨s, hopen, hload⟩ := readSeries_eq_noData_iff.1 h
  obtain rfl := Store.path_of_open hopen
  obtain ⟨answer, hanswer, hnone⟩ := Store.rows_of_load_eq_none hcommits htests hload
  exact ⟨⟨answer, hanswer, hnone⟩, fun _ _ _ hreads => Store.rowsOf_eq_nil_of_answer hreads hanswer hnone⟩

/-- **How many rows are asked for**: as many as there are tests at all wanted commits, or the largest 32-bit number if
they are more.  A fetch is refused for its limit exactly if there is no commit or no test to ask for, whatever the files
hold.  So it never is with the settings of a command, and a run that finds no data has looked at a store that has no row
at all. -/
theorem rowLimit_exact :
    (∀ files s c catalog,
      Store.load files s c catalog =
        ((s.fetchRecent files (min (c.maxCommits.toNat * catalog.size) (UInt32.size - 1))).mapError (⟨s.path, ·⟩)).map
          fun records => Store.loaded records catalog c.maxCommits.toNat) ∧
    (∀ files s commits catalog,
      Store.fetchForCommits files s commits catalog = .error .invalidLimit ↔ commits = 0 ∨ catalog.size = 0) ∧
    ∀ files o c, buildConfig files o = .ok c → ∀ files',
      (∀ s path, Store.load files' s c .reference ≠ .error ⟨path, .invalidLimit⟩) ∧
      (∀ path, readSeries files' c .reference ≠ .error ⟨path, .invalidLimit⟩) ∧
      (∀ path, (generateCharts files' c .reference).2 ≠ .error ⟨path, .invalidLimit⟩) ∧
      (readSeries files' c .reference = .ok .noData → NoRows files' c) ∧
      ((generateCharts files' c .reference).2 = .ok .noData → NoRows files' c) := by
  refine ⟨Store.load_eq_fetch, fun _ _ _ _ => Store.fetchForCommits_eq_invalidLimit_iff, fun files o c hc files' => ?_⟩
  have hcommits : c.maxCommits.toNat ≠ 0 := fun hzero =>
    (Config.validate_eq_ok_iff.1 (validate_of_buildConfig hc)).2.1 (UInt64.toNat_inj.1 hzero)
  have htests : Catalog.reference.size ≠ 0 := by decide
  have hsome : ¬ (c.maxCommits.toNat = 0 ∨ Catalog.reference.size = 0) := not_or.2 ⟨hcommits, htests⟩
  have hreading (path : Path) : readSeries files' c .reference ≠ .error ⟨path, .invalidLimit⟩ :=
    fun h => hsome (readSeries_eq_invalidLimit h)
  exact ⟨fun s path h => hsome (Store.load_eq_invalidLimit_iff.1 h).2, hreading,
    fun path h => hreading path ((generateCharts_stops_iff.2 _).1 h), noRows_of_noData hcommits htests,
    fun h => noRows_of_noData hcommits htests (generateCharts_stops_iff.1.1 h)⟩

section Unrecorded

/-- Results of a run without a commit, and one of no run. -/
def unrecorded : Database := Database.applyAll {}
  [.createRuns, .createResults, .addRun none (.text "2026-01-01") .null [(.integer 1, .text "a", .integer 10)],
    .addResult (.integer 9) (.integer 2) (.text "b") (.integer 20)]

/-- Settings for the largest number of commits that the command line takes: five times as many rows are out of reach. -/
def manyCommits : StoreOptions where
  db := some ⟨"p.db"⟩
  maxCommits := some 4294967295

def manyCommitsConfig : Config where
  database := ⟨"./p.db"⟩
  docsDir := ⟨"./doc"⟩
  suiteDir := ⟨"./tests/PerformanceTests"⟩
  maxCommits := 4294967295

def unrecordedStore : Store := ⟨⟨"./p.db"⟩⟩

theorem history?_unrecorded : unrecordedStore.history? (Store.onDisk unrecorded) = .ok [] := by
  have hleads : Store.LeadsTo (Store.onDisk unrecorded) unrecordedStore (.database unrecorded) :=
    ⟨.file ["p.db"] (.database unrecorded) { file := some "./p.db" }, by rfl, by rfl⟩
  rw [Store.history?_of_leadsTo hleads rfl rfl, Database.rows_eq_joined (by decide +kernel)]
  rfl

theorem readSeries_unrecorded :
    readSeries (Store.onDisk unrecorded) manyCommitsConfig .reference = .ok .noData := by
  refine readSeries_eq_noData_iff.2 ⟨unrecordedStore, by rfl, ?_⟩
  rw [Store.load_of_history history?_unrecorded (by decide) (by decide), List.take_nil]
  rfl

/-- A database whose results count for nothing is one without data. -/
theorem rowLimit_exact_unrecorded :
    buildConfig (Store.onDisk unrecorded) manyCommits = .ok manyCommitsConfig ∧
      readSeries (Store.onDisk unrecorded) manyCommitsConfig .reference = .ok .noData ∧
      (generateCharts (Store.onDisk unrecorded) manyCommitsConfig .reference).2 = .ok .noData ∧
      NoRows (Store.onDisk unrecorded) manyCommitsConfig := by
  have hbuild : buildConfig (Store.onDisk unrecorded) manyCommits = .ok manyCommitsConfig := by rfl
  have hcharts := generateCharts_stops_iff.1.2 readSeries_unrecorded
  obtain ⟨-, -, hruns⟩ := rowLimit_exact
  obtain ⟨-, -, -, -, hnone⟩ := hruns _ _ _ hbuild (Store.onDisk unrecorded)
  exact ⟨hbuild, readSeries_unrecorded, hcharts, hnone hcharts⟩

end Unrecorded

end CommandLine

end CommitCharts
