import CommitCharts.Proofs.CommandLine.Arguments
import CommitCharts.Proofs.Config

/-!
# CommitCharts.Proofs.CommandLine.Settings — the settings of a run

What the command line gives takes the place of what the settings file says, and only then are the paths taken from the
root (`renderConfig_determined`).  Some of it is put in its place later than that, with its path already taken from the
root, which comes to the same (`renderConfig_eq_map`).
-/

namespace CommitCharts

namespace Config

/-! ### Settings files -/

theorem validate_of_parse {text : String} {c : Config} (h : parse text = .ok c) : c.validate = .ok () := by
  obtain ⟨c', -, h⟩ := bind_eq_ok.1 h
  obtain ⟨⟨⟩, hvalid, h⟩ := bind_eq_ok.1 h
  obtain rfl := Except.ok.inj h
  exact mapError_eq_ok_iff.1 hvalid

theorem validate_of_load {files : Files} {path : Path} {c : Config} (h : load files path = .ok c) :
    c.validate = .ok () := by
  unfold load at h
  cases hread : files.read path with
  | error fault =>
    rw [hread] at h
    cases h
  | ok content =>
    rw [hread] at h
    dsimp only at h
    cases htext : content.text? with
    | none =>
      rw [htext] at h
      cases h
    | some text =>
      rw [htext] at h
      exact validate_of_parse h

theorem validate_default : ({} : Config).validate = .ok () := by decide

end Config

namespace CommandLine

variable {files : Files} {o : StoreOptions} {docsDir suiteDir : Option Path}

/-- The settings of the file that is given, or all defaults without one. -/
def IsBase (files : Files) (o : StoreOptions) (c : Config) : Prop :=
  (o.config = none ∧ c = {}) ∨ ∃ path, o.config = some path ∧ Config.load files path = .ok c

theorem baseConfig_eq_ok_iff {c : Config} : baseConfig files o.config = .ok c ↔ IsBase files o c := by
  unfold baseConfig IsBase
  cases o.config with
  | none => simp [eq_comm]
  | some path => simp [mapError_eq_ok_iff]

theorem baseConfig_eq_error_iff {e : Failure} :
    baseConfig files o.config = .error e ↔
      ∃ path fault, o.config = some path ∧ Config.load files path = .error fault ∧ e = .config path fault := by
  unfold baseConfig
  cases o.config with
  | none => simp
  | some path =>
    rw [mapError_eq_error_iff]
    constructor
    · rintro ⟨fault, hload, rfl⟩
      exact ⟨path, fault, rfl, hload, rfl⟩
    · rintro ⟨path', fault, hpath, hload, rfl⟩
      obtain rfl := Option.some.inj hpath
      exact ⟨fault, hload, rfl⟩

theorem IsBase.validate {c : Config} (h : IsBase files o c) : c.validate = .ok () := by
  obtain ⟨-, rfl⟩ | ⟨path, -, hload⟩ := h
  · exact Config.validate_default
  · exact Config.validate_of_load hload

/-- The settings with what the command line gives in the place of their own. -/
def override (c : Config) (o : StoreOptions) (docsDir suiteDir : Option Path) : Config :=
  { c with
    database := o.db.getD c.database
    docsDir := docsDir.getD c.docsDir
    suiteDir := suiteDir.getD c.suiteDir
    maxCommits := (o.maxCommits.map UInt32.toUInt64).getD c.maxCommits }

/-- Settings stay acceptable, since the command line can only give a number of commits that is accepted. -/
theorem validate_override (hcommits : o.maxCommits ≠ some 0) {c : Config} (h : c.validate = .ok ()) :
    (override c o docsDir suiteDir).validate = .ok () := by
  rw [Config.validate_eq_ok_iff] at h ⊢
  obtain ⟨hversion, hpositive, hsizes⟩ := h
  refine ⟨hversion, ?_, hsizes⟩
  unfold override
  cases hn : o.maxCommits with
  | none => exact hpositive
  | some n =>
    rw [hn] at hcommits
    have hzero : n ≠ 0 := fun h => hcommits (congrArg some h)
    simpa [← UInt64.toNat_inj, ← UInt32.toNat_inj] using hzero

/-! ### Both commands -/

/-- Settings for printing: what they are checked for a second time can be found no more. -/
theorem buildConfig_eq_map (files : Files) (hcommits : o.maxCommits ≠ some 0) :
    buildConfig files o =
      (baseConfig files o.config).map fun base => (override base o none none).resolve o.repoRoot := by
  unfold buildConfig
  cases hbase : baseConfig files o.config with
  | error e => rfl
  | ok base =>
    have hvalid : (override base o none none).validate = .ok () :=
      validate_override hcommits (baseConfig_eq_ok_iff.1 hbase).validate
    change ((override base o none none).validate.mapError Failure.rejected >>= fun _ =>
      .ok ((override base o none none).resolve o.repoRoot)) = _
    rw [hvalid]
    rfl

/-- It is the same whether a directory that is given is put in its place before the paths are taken from the root, or
after that and joined to the root by itself. -/
theorem resolve_override (base : Config) (o : StoreOptions) (docsDir suiteDir : Option Path) :
    (override base o docsDir suiteDir).resolve o.repoRoot =
      { (override base o none none).resolve o.repoRoot with
        docsDir := (docsDir.map o.repoRoot.join).getD ((override base o none none).resolve o.repoRoot).docsDir
        suiteDir :=
          (suiteDir.map o.repoRoot.join).getD ((override base o none none).resolve o.repoRoot).suiteDir } := by
  have hdirectory (given : Option Path) (own : Path) :
      (given.map o.repoRoot.join).getD (o.repoRoot.join own) = o.repoRoot.join (given.getD own) := Option.getD_map ..
  rw [Config.resolve_eq, Config.resolve_eq]
  dsimp only [override, Option.getD_none]
  rw [hdirectory, hdirectory]

theorem renderConfig_eq_map (files : Files) (docsDir suiteDir : Option Path) (hcommits : o.maxCommits ≠ some 0) :
    renderConfig files o docsDir suiteDir =
      (baseConfig files o.config).map fun base => (override base o docsDir suiteDir).resolve o.repoRoot := by
  unfold renderConfig
  rw [buildConfig_eq_map files hcommits]
  cases baseConfig files o.config with
  | error e => rfl
  | ok base => exact congrArg Except.ok (resolve_override base o docsDir suiteDir).symm

/-- **The settings of a run**: there are none exactly if a settings file is given that cannot be loaded, and then for
that reason.  Otherwise they are those of the file, or the defaults, with what the command line gives in their place and
then with all paths taken from the root.  They are accepted, and the second check never refuses anything.  Printing has
the same settings but for the directories of the charts. -/
theorem renderConfig_determined (files : Files) (o : StoreOptions) (docsDir suiteDir : Option Path)
    (hcommits : o.maxCommits ≠ some 0) :
    (∀ e, renderConfig files o docsDir suiteDir = .error e ↔
      ∃ path fault, o.config = some path ∧ Config.load files path = .error fault ∧ e = .config path fault) ∧
    (∀ c, renderConfig files o docsDir suiteDir = .ok c ↔
      ∃ base, IsBase files o base ∧ c = (override base o docsDir suiteDir).resolve o.repoRoot) ∧
    (∀ c, renderConfig files o docsDir suiteDir = .ok c → c.validate = .ok ()) ∧
    (∀ r, buildConfig files o ≠ .error (.rejected r)) ∧
    (∀ e, buildConfig files o = .error e ↔ renderConfig files o docsDir suiteDir = .error e) ∧
    ∀ c, renderConfig files o docsDir suiteDir = .ok c →
      ∃ shown, buildConfig files o = .ok shown ∧ shown.database = c.database ∧ shown.maxCommits = c.maxCommits := by
  have hsettings (c : Config) : renderConfig files o docsDir suiteDir = .ok c ↔
      ∃ base, IsBase files o base ∧ c = (override base o docsDir suiteDir).resolve o.repoRoot := by
    rw [renderConfig_eq_map files docsDir suiteDir hcommits, map_eq_ok_iff]
    exact exists_congr fun base => and_congr baseConfig_eq_ok_iff eq_comm
  have hnone (e : Failure) :
      renderConfig files o docsDir suiteDir = .error e ↔ baseConfig files o.config = .error e := by
    rw [renderConfig_eq_map files docsDir suiteDir hcommits, map_eq_error_iff]
  have hnone' (e : Failure) : buildConfig files o = .error e ↔ baseConfig files o.config = .error e := by
    rw [buildConfig_eq_map files hcommits, map_eq_error_iff]
  refine ⟨fun e => (hnone e).trans baseConfig_eq_error_iff, hsettings, fun c hc => ?_, fun r hr => ?_,
    fun e => (hnone' e).trans (hnone e).symm, fun c hc => ?_⟩
  · obtain ⟨base, hbase, rfl⟩ := (hsettings c).1 hc
    rw [Config.validate_resolve]
    exact validate_override hcommits hbase.validate
  · obtain ⟨path, fault, -, -, hfault⟩ := baseConfig_eq_error_iff.1 ((hnone' _).1 hr)
    cases hfault
  · obtain ⟨base, hbase, rfl⟩ := (hsettings c).1 hc
    rw [buildConfig_eq_map files hcommits, baseConfig_eq_ok_iff.2 hbase]
    exact ⟨_, rfl, rfl, rfl⟩

/-- A file system with a settings file that leaves all to the defaults. -/
def withSettings : Files := FileTree.put ⟨∅, []⟩ ["perf.yaml"] (.file (.ofText ""))

/-- What the options of a command line give. -/
def someOptions : StoreOptions where
  config := some ⟨"perf.yaml"⟩
  repoRoot := ⟨"/repo/"⟩
  db := some ⟨"../perf.db"⟩
  maxCommits := some 4

/-- The arguments that give these options and a directory for the charts of the suite. -/
def someArguments : List String :=
  ["render", "--config", "perf.yaml", "--repo-root=/repo/", "--db", "../perf.db", "--max-commits", "+4", "--suite-dir",
    "/srv/suite/"]

theorem renderConfig_determined_someArguments :
    Invocation.ofArguments none someArguments = .ok ⟨false, .render someOptions none (some ⟨"/srv/suite/"⟩)⟩ ∧
    someOptions.maxCommits ≠ some 0 ∧
    ∃ c, renderConfig withSettings someOptions none (some ⟨"/srv/suite/"⟩) = .ok c ∧
      c = { database := ⟨"/repo/../perf.db"⟩, docsDir := ⟨"/repo/doc"⟩, suiteDir := ⟨"/srv/suite/"⟩, maxCommits := 4 } ∧
      c.validate = .ok () ∧
      ∃ shown, buildConfig withSettings someOptions = .ok shown ∧ shown.database = c.database := by
  have hargs : Invocation.ofArguments none someArguments =
      .ok ⟨false, .render someOptions none (some ⟨"/srv/suite/"⟩)⟩ := by rfl
  have hcommits : someOptions.maxCommits ≠ some 0 := maxCommits_of_ofArguments hargs
  obtain ⟨-, hsettings, hvalid, -, -, hshown⟩ :=
    renderConfig_determined withSettings someOptions none (some ⟨"/srv/suite/"⟩) hcommits
  have hbase : IsBase withSettings someOptions {} := .inr ⟨⟨"perf.yaml"⟩, rfl, by rfl⟩
  have hc := (hsettings _).2 ⟨{}, hbase, rfl⟩
  obtain ⟨shown, hbuild, hdatabase, -⟩ := hshown _ hc
  exact ⟨hargs, hcommits, _, hc, by decide, hvalid _ hc, shown, hbuild, hdatabase⟩

end CommandLine

end CommitCharts
