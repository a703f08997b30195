import CommitCharts.CommandLine.Run
import CommitCharts.Proofs.Plan.Execution
import CommitCharts.Proofs.Run

/-!
# CommitCharts.Proofs.CommandLine.ExitCode — what an exit code promises

Drawing succeeds only if there is no store, or if every chart of the standard plan is there in the end; and where
drawing succeeds, printing does (`exit_sound`).
-/

namespace CommitCharts

open FileTree

namespace ExitCode

theorem ofOutcome_eq_zero_or_one (outcome : RunOutcome) : ofOutcome outcome = 0 ∨ ofOutcome outcome = 1 := by
  cases outcome with
  | noStore path => exact .inl rfl
  | unavailable path reason => exact .inr rfl
  | noData => exact .inr rfl
  | insufficientData commits => exact .inr rfl
  | completed report =>
    dsimp only [ofOutcome]
    split
    · exact .inl rfl
    · exact .inr rfl

theorem ofOutcome_eq_zero_iff {outcome : RunOutcome} :
    ofOutcome outcome = 0 ↔
      (∃ path, outcome = .noStore path) ∨ ∃ report, outcome = .completed report ∧ report.success = true := by
  cases outcome with
  | noStore path => simp [ofOutcome, success]
  | unavailable path reason => simp [ofOutcome, failure]
  | noData => simp [ofOutcome, failure]
  | insufficientData commits => simp [ofOutcome, failure]
  | completed report =>
    unfold ofOutcome
    cases report.success <;> simp [success, failure]

end ExitCode

namespace CommandLine

variable {files : Files} {o : StoreOptions} {docsDir suiteDir : Option Path} {format : Format} {c : Config}

/-! ### Drawing -/

theorem exit_renderResult (outcome : RunOutcome) : (renderResult files outcome).exit = ExitCode.ofOutcome outcome := by
  cases outcome <;> rfl

theorem files_renderResult (outcome : RunOutcome) : (renderResult files outcome).files = files := by
  cases outcome <;> rfl

theorem exit_drawCharts_eq_zero_or_one (files : Files) (o : StoreOptions) (docsDir suiteDir : Option Path) :
    (drawCharts files o docsDir suiteDir).exit = 0 ∨ (drawCharts files o docsDir suiteDir).exit = 1 := by
  unfold drawCharts
  cases renderConfig files o docsDir suiteDir with
  | error e => exact .inr rfl
  | ok c =>
    dsimp only
    cases generateCharts files c .reference with
    | mk after result =>
      cases result with
      | error e => exact .inr rfl
      | ok outcome =>
        dsimp only
        rw [exit_renderResult]
        exact ExitCode.ofOutcome_eq_zero_or_one outcome

/-- Drawing that succeeds has settings and an outcome that counts as success. -/
theorem drawCharts_succeeds (h : (drawCharts files o docsDir suiteDir).exit = 0) :
    ∃ c outcome, renderConfig files o docsDir suiteDir = .ok c ∧
      generateCharts files c .reference = ((drawCharts files o docsDir suiteDir).files, .ok outcome) ∧
      ExitCode.ofOutcome outcome = 0 := by
  unfold drawCharts at h ⊢
  cases hc : renderConfig files o docsDir suiteDir with
  | error e =>
    rw [hc] at h
    cases h
  | ok c =>
    rw [hc] at h
    dsimp only at h ⊢
    cases hrun : generateCharts files c .reference with
    | mk after result =>
      rw [hrun] at h
      cases result with
      | error e => cases h
      | ok outcome =>
        refine ⟨c, outcome, rfl, ?_, ?_⟩
        · rw [hrun, files_renderResult]
        · rwa [exit_renderResult] at h

/-- The charts of the standard plan are all files. -/
def AllDrawn (files : Files) (c : Config) (catalog : Catalog) : Prop :=
  (Plan.standard catalog c.docsDir c.suiteDir c.chartSizes).size = 2 * (catalog.size + 1) ∧
    ∀ job ∈ (Plan.standard catalog c.docsDir c.suiteDir c.chartSizes).jobs, files.IsFile job.path

/-- Generating that succeeds found no store, or has drawn all charts. -/
theorem generateCharts_succeeds {after : Files} {outcome : RunOutcome} {catalog : Catalog}
    (h : generateCharts files c catalog = (after, .ok outcome)) (hs : ExitCode.ofOutcome outcome = 0) :
    (files.pathExists c.database = false ∧ after = files) ∨
      ∃ records series, readSeries files c catalog = .ok (.loaded records series) ∧ 2 ≤ series.size ∧
        AllDrawn after c catalog := by
  rw [generateCharts_eq_charted] at h
  rcases ExitCode.ofOutcome_eq_zero_iff.mp hs with ⟨path, rfl⟩ | ⟨report, rfl, hsuccess⟩
  · have hnone := charted_eq_noStore_iff.mp (congrArg Prod.snd h)
    have hexists := (readSeries_eq_noStore_iff.mp hnone).1
    rw [hnone, Store.traces_eq_of_not_exists hexists] at h
    exact .inl ⟨hexists, (congrArg Prod.fst h).symm⟩
  · obtain ⟨records, series, hloaded, hsize, hexecute⟩ := charted_completed (congrArg Prod.snd h)
    rw [h] at hexecute
    refine .inr ⟨records, series, hloaded, hsize, Plan.size_standard _ _ _ _, fun job hjob => ?_⟩
    have hfile := Plan.isFile_of_success (by rw [hexecute]; exact hsuccess) hjob
    rw [hexecute] at hfile
    exact hfile

/-! ### Printing -/

theorem exit_showResult_eq_zero_iff {reading : Reading} :
    (showResult files format reading).exit = 0 ↔
      (∃ path, reading = .noStore path) ∨
        ∃ records series, reading = .loaded records series ∧ 1 ≤ series.size := by
  cases reading with
  | noStore path => simp [showResult, ExitCode.success]
  | unavailable path reason => simp [showResult, ExitCode.failure]
  | noData => simp [showResult, ExitCode.failure]
  | loaded records series =>
    cases hcommits : series.commits with
    | nil => simp [showResult, Series.isEmpty, Series.size, hcommits, ExitCode.failure]
    | cons commit commits => simp [showResult, Series.isEmpty, Series.size, hcommits, ExitCode.success]

theorem exit_printSeries_eq_zero_iff (hc : buildConfig files o = .ok c) :
    (printSeries files o format).exit = 0 ↔
      files.pathExists c.database = false ∨
        ∃ records series, readSeries files c .reference = .ok (.loaded records series) ∧ 1 ≤ series.size := by
  have hnone : files.pathExists c.database = false ↔ ∃ path, readSeries files c .reference = .ok (.noStore path) := by
    simp only [readSeries_eq_noStore_iff, exists_and_left, exists_eq, and_true]
  rw [hnone]
  unfold printSeries
  rw [hc]
  dsimp only
  cases readSeries files c .reference with
  | error e => simp [ExitCode.failure]
  | ok reading => simpa using exit_showResult_eq_zero_iff

/-! ### Both commands -/

/-- The settings for drawing are those for printing, but for the directories. -/
theorem renderConfig_eq_ok (h : renderConfig files o docsDir suiteDir = .ok c) :
    ∃ base, buildConfig files o = .ok base ∧
      c = { base with
        docsDir := (docsDir.map o.repoRoot.join).getD base.docsDir
        suiteDir := (suiteDir.map o.repoRoot.join).getD base.suiteDir } := by
  unfold renderConfig at h
  cases hbase : buildConfig files o with
  | error e =>
    rw [hbase] at h
    cases h
  | ok base =>
    rw [hbase] at h
    exact ⟨base, rfl, (Except.ok.inj h).symm⟩

/-- The directories for the charts have no say in what is read. -/
theorem readSeries_directories (files : Files) (c : Config) (docsDir suiteDir : Path) (catalog : Catalog) :
    readSeries files { c with docsDir, suiteDir } catalog = readSeries files c catalog := rfl

/-- **What an exit code promises**: drawing ends with 0 only if no store is there and nothing was written, or if two
commits were loaded and every chart of the standard plan is a file in the end; otherwise it ends with 1.  Where it ends
with 0, so does printing, which needs a single commit. -/
theorem exit_sound (files : Files) (o : StoreOptions) (docsDir suiteDir : Option Path) (format : Format) :
    ((Command.run files (.render o docsDir suiteDir)).exit = 0 →
      ∃ c, renderConfig files o docsDir suiteDir = .ok c ∧
        ((files.pathExists c.database = false ∧ (Command.run files (.render o docsDir suiteDir)).files = files) ∨
          ∃ records series, readSeries files c .reference = .ok (.loaded records series) ∧ 2 ≤ series.size ∧
            AllDrawn (Command.run files (.render o docsDir suiteDir)).files c .reference)) ∧
    ((Command.run files (.render o docsDir suiteDir)).exit ≠ 0 →
      (Command.run files (.render o docsDir suiteDir)).exit = 1) ∧
    ((Command.run files (.render o docsDir suiteDir)).exit = 0 → (Command.run files (.show o format)).exit = 0) ∧
    ∀ c, buildConfig files o = .ok c →
      ((Command.run files (.show o format)).exit = 0 ↔
        files.pathExists c.database = false ∨
          ∃ records series, readSeries files c .reference = .ok (.loaded records series) ∧ 1 ≤ series.size) := by
  have hdraw (h : (drawCharts files o docsDir suiteDir).exit = 0) :
      ∃ c, renderConfig files o docsDir suiteDir = .ok c ∧
        ((files.pathExists c.database = false ∧ (drawCharts files o docsDir suiteDir).files = files) ∨
          ∃ records series, readSeries files c .reference = .ok (.loaded records series) ∧ 2 ≤ series.size ∧
            AllDrawn (drawCharts files o docsDir suiteDir).files c .reference) := by
    obtain ⟨c, outcome, hc, hrun, hs⟩ := drawCharts_succeeds h
    exact ⟨c, hc, generateCharts_succeeds hrun hs⟩
  refine ⟨hdraw, ?_, ?_, ?_⟩
  · exact (exit_drawCharts_eq_zero_or_one files o docsDir suiteDir).resolve_left
  · intro h
    obtain ⟨c, hc, hdone⟩ := hdraw h
    obtain ⟨base, hbase, rfl⟩ := renderConfig_eq_ok hc
    refine (exit_printSeries_eq_zero_iff hbase).mpr ?_
    rcases hdone with ⟨hexists, -⟩ | ⟨records, series, hloaded, hsize, -⟩
    · exact .inl hexists
    · rw [readSeries_directories] at hloaded
      exact .inr ⟨records, series, hloaded, by omega⟩
  · exact fun c hc => exit_printSeries_eq_zero_iff hc

-- Where nothing was measured yet, both commands succeed.
example :
    (Command.run ⟨∅, []⟩ (.render {} none none)).exit = 0 ∧ (Command.run ⟨∅, []⟩ (.show {} .text)).exit = 0 := by
  constructor <;> rfl

end CommandLine

end CommitCharts
