import CommitCharts.Proofs.Path.Components
import CommitCharts.Proofs.Plan.Entry
import Mathlib.Data.List.Forall2

/-!
# CommitCharts.Proofs.Plan.Placement — where the charts of the standard plan stand

A chart stands in the directory of its destination if the word of its test is free of slashes.  A slash in the word ends
the name of a directory, so such a chart stands somewhere else (`standard_placed`).
-/

namespace CommitCharts.Plan

variable {catalog : Catalog} {docsDir suiteDir : Path} {sizes : ChartSizes}

namespace Entry

variable {e : Entry} {a b : String}

def fileName (e : Entry) : String := e.stem ++ ".svg"

theorem head?_fileName (e : Entry) : (Path.mk e.fileName).text.toList.head? = some 'p' := by
  rw [fileName, String.toList_append, List.head?_append, head?_stem, Option.some_or]

theorem slash_notMem_fileName_iff : '/' ∉ e.fileName.toList ↔ e.Unslashed := by
  rw [fileName, String.toList_append, List.mem_append, not_or, slash_notMem_stem_iff]
  exact and_iff_left (by decide)

/-- A chart has the components of its directory, then those of its name. -/
theorem components_path (docsDir suiteDir : Path) (e : Entry) :
    (e.path docsDir suiteDir).isAbsolute = (e.destination.directory docsDir suiteDir).isAbsolute ∧
      (e.path docsDir suiteDir).components =
        (e.destination.directory docsDir suiteDir).components ++ (Path.mk e.fileName).components := by
  obtain ⟨first, rest, hsegments, hfirst⟩ := Path.exists_first e.head?_fileName (by decide) (by decide)
  exact Path.components_join _ hsegments hfirst

theorem components_fileName_iff : (Path.mk e.fileName).components = [e.fileName] ↔ e.Unslashed := by
  rw [← slash_notMem_fileName_iff]
  constructor
  · intro h
    refine Path.slash_notMem_of_mem_segments (Path.components_subset_segments (Path.mk e.fileName) ?_)
    rw [h]
    exact List.mem_singleton_self _
  · intro h
    have hne : e.fileName ≠ "" := by
      intro hempty
      have hhead := head?_fileName e
      rw [hempty] at hhead
      cases hhead
    rw [Path.components_eq (Path.segments_of_slash_notMem (p := ⟨e.fileName⟩) h), Path.filter_first hne]
    rfl

/-- A slash in a stem ends the name of a directory. -/
theorem components_fileName_of_slash (hstem : e.stem = a ++ "/" ++ b) (hb : '/' ∉ b.toList) :
    (Path.mk e.fileName).components = (Path.mk a).components ++ [b ++ ".svg"] := by
  have hlast : '/' ∉ (Path.mk (b ++ ".svg")).text.toList := by
    rw [String.toList_append, List.mem_append, not_or]
    exact ⟨hb, by decide⟩
  have hsegments := Path.segments_append_slash a (b ++ ".svg")
  rw [← String.append_assoc, ← hstem, Path.segments_of_slash_notMem hlast] at hsegments
  have hnoise : Path.isNoise (b ++ ".svg") = false := by
    have hlength : (b ++ ".svg").length = b.length + 4 := String.length_append ..
    rw [Path.isNoise_eq_false_iff]
    constructor <;> refine ne_of_apply_ne String.length ?_ <;> rw [hlength]
    · exact Nat.succ_ne_zero _
    · exact fun h => nomatch Nat.succ.inj h
  rw [fileName, Path.components_append hsegments, List.filter_singleton, hnoise]
  rfl

/-- **A chart stands in its directory** exactly if the word of its test is free of slashes. -/
theorem path_liesIn_iff :
    (e.path docsDir suiteDir).LiesIn (e.destination.directory docsDir suiteDir) e.fileName ↔ e.Unslashed := by
  obtain ⟨habsolute, hcomponents⟩ := e.components_path docsDir suiteDir
  rw [Path.liesIn_iff, hcomponents, List.append_cancel_left_eq, components_fileName_iff]
  exact and_iff_right habsolute

/-- Otherwise it stands in the directory that its stem names up to the last slash. -/
theorem path_liesIn_of_slash (hstem : e.stem = a ++ "/" ++ b) (hb : '/' ∉ b.toList) :
    (e.path docsDir suiteDir).LiesIn ((e.destination.directory docsDir suiteDir).join ⟨a⟩) (b ++ ".svg") := by
  have hhead : (Path.mk a).text.toList.head? = some 'p' := by
    have hp := head?_stem e
    rw [hstem, String.append_assoc, String.toList_append, List.head?_append] at hp
    cases ha : a.toList.head? with
    | none =>
      rw [ha] at hp
      simp at hp
    | some c =>
      rw [ha] at hp
      exact hp
  obtain ⟨first, rest, hsegments, hfirst⟩ := Path.exists_first hhead (by decide) (by decide)
  obtain ⟨hstart, hdirectory⟩ :=
    Path.components_join (e.destination.directory docsDir suiteDir) hsegments hfirst
  obtain ⟨habsolute, hcomponents⟩ := e.components_path docsDir suiteDir
  rw [Path.liesIn_iff, hstart, habsolute, hcomponents, hdirectory, components_fileName_of_slash hstem hb,
    List.append_assoc]
  exact ⟨rfl, rfl⟩

/-- Where a job stands that is of this chart. -/
structure Placed (docsDir suiteDir : Path) (job : Job) (e : Entry) : Prop where
  destination : job.destination = e.destination
  /-- It stands in its directory exactly if the first word of its short name is free of slashes. -/
  inPlace : job.path.LiesIn (e.destination.directory docsDir suiteDir) (e.stem ++ ".svg") ↔
    ∀ t ∈ e.test?, '/' ∉ (Text.firstWord t.shortName).toList
  /-- What comes before the last slash of its stem is the name of a directory. -/
  astray : ∀ a b, e.stem = a ++ "/" ++ b → '/' ∉ b.toList →
    job.path.LiesIn ((e.destination.directory docsDir suiteDir).join ⟨a⟩) (b ++ ".svg")

end Entry

/-- **The charts of the standard plan** stand in the directories of their destinations, all but those of tests with a
slash in the first word of the short name. -/
theorem standard_placed (catalog : Catalog) (docsDir suiteDir : Path) (sizes : ChartSizes) :
    List.Forall₂ (Entry.Placed docsDir suiteDir) (standard catalog docsDir suiteDir sizes).jobs (entries catalog) := by
  rw [jobs_standard, List.forall₂_map_left_iff, List.forall₂_same]
  intro e _
  have hunslashed : e.Unslashed ↔ ∀ t ∈ e.test?, '/' ∉ (Text.firstWord t.shortName).toList :=
    forall₂_congr fun _ _ => not_congr Test.slash_mem_fileWord_iff
  exact ⟨rfl, Entry.path_liesIn_iff.trans hunslashed, fun _ _ => Entry.path_liesIn_of_slash⟩

section Io

/-- One test with a slash in its name. -/
def ioCatalog : Catalog := ⟨[⟨1, "Test 1: I/O (4K)", ⟨0, 0, 0⟩⟩]⟩

/-- The trends of this catalog stand in directories below, `doc/perf_test1_i` and `suite/perf_trend_i`. -/
theorem standard_misplaced :
    ((standard ioCatalog ⟨"doc"⟩ ⟨"suite"⟩ {}).jobs.map (·.path)) =
        [⟨"doc/perf_overview.svg"⟩, ⟨"doc/perf_test1_i/o.svg"⟩, ⟨"suite/perf_comparison.svg"⟩,
          ⟨"suite/perf_trend_i/o.svg"⟩] ∧
      ¬ ∀ (catalog : Catalog) (docsDir suiteDir : Path) (sizes : ChartSizes),
        List.Forall₂
          (fun job e => job.path.LiesIn (e.destination.directory docsDir suiteDir) (e.stem ++ ".svg"))
          (standard catalog docsDir suiteDir sizes).jobs (entries catalog) := by
  constructor
  · decide +kernel
  · intro h
    obtain ⟨-, h⟩ := List.forall₂_cons.1 (h ioCatalog ⟨"doc"⟩ ⟨"suite"⟩ {})
    obtain ⟨htrend, -⟩ := List.forall₂_cons.1 h
    exact absurd htrend (by decide +kernel)

end Io

end CommitCharts.Plan
