import CommitCharts.Plan
import CommitCharts.Proofs.Text

/-!
# CommitCharts.Proofs.Plan.Entry — the charts of the standard plan

A job of the standard plan is told by its destination and by its test, if it has one (`jobs_standard`).  The stems of
two jobs are equal only at the same destination, for the overviews or for tests with the same word
(`Entry.stem_eq_iff`).
-/

namespace CommitCharts

def Destination.directory (docsDir suiteDir : Path) : Destination → Path
  | .docs => docsDir
  | .suite => suiteDir

namespace Plan

variable {catalog : Catalog} {docsDir suiteDir : Path} {sizes : ChartSizes}

/-- One chart of a destination: the trend of a test, or the overview. -/
structure Entry where
  destination : Destination
  test? : Option Test

def entriesFor (catalog : Catalog) (d : Destination) : List Entry :=
  ⟨d, none⟩ :: catalog.tests.map fun t => ⟨d, some t⟩

def entries (catalog : Catalog) : List Entry := entriesFor catalog .docs ++ entriesFor catalog .suite

namespace Entry

def stem (e : Entry) : String :=
  match e.test? with
  | none => e.destination.overviewStem
  | some t => e.destination.trendStem t.id t.fileWord

def spec (sizes : ChartSizes) (e : Entry) : Chart.Spec :=
  match e.test? with
  | none => .overview e.destination.overviewTitle e.destination.legend sizes.overview
  | some t => .trend t.id sizes.trend

def path (docsDir suiteDir : Path) (e : Entry) : Path := chartPath (e.destination.directory docsDir suiteDir) e.stem

def job (docsDir suiteDir : Path) (sizes : ChartSizes) (e : Entry) : Job :=
  ⟨e.destination, e.spec sizes, e.path docsDir suiteDir⟩

/-- The word of the test is free of slashes. -/
def Unslashed (e : Entry) : Prop := ∀ t ∈ e.test?, '/' ∉ t.fileWord.toList

/-- Two charts that are named alike: overviews of one destination, trends for the documentation with the same id and
word, or trends for the test suite with the same word. -/
inductive Alike : Entry → Entry → Prop where
  | overview (d : Destination) : Alike ⟨d, none⟩ ⟨d, none⟩
  | docs {t t' : Test} (id : t.id = t'.id) (word : t.fileWord = t'.fileWord) : Alike ⟨.docs, some t⟩ ⟨.docs, some t'⟩
  | suite {t t' : Test} (word : t.fileWord = t'.fileWord) : Alike ⟨.suite, some t⟩ ⟨.suite, some t'⟩

end Entry

theorem jobsFor_eq_map (d : Destination) :
    jobsFor catalog sizes d (d.directory docsDir suiteDir) =
      (entriesFor catalog d).map (Entry.job docsDir suiteDir sizes) := by
  rw [jobsFor, entriesFor, List.map_cons, List.map_map]
  rfl

theorem jobs_standard :
    (standard catalog docsDir suiteDir sizes).jobs = (entries catalog).map (Entry.job docsDir suiteDir sizes) := by
  rw [entries, List.map_append, ← jobsFor_eq_map, ← jobsFor_eq_map]
  rfl

theorem mem_entries_iff {e : Entry} : e ∈ entries catalog ↔ ∀ t ∈ e.test?, t ∈ catalog.tests := by
  obtain ⟨_ | _, _ | t⟩ := e <;> simp [entries, entriesFor]

namespace Entry

/-! ### Stems -/

/-- All stems start with the same letter. -/
theorem head?_stem (e : Entry) : e.stem.toList.head? = some 'p' := by
  obtain ⟨_ | _, _ | t⟩ := e <;>
    simp [stem, Destination.overviewStem, Destination.trendStem]

/-- A stem has a slash exactly if the word in it has one. -/
theorem slash_notMem_stem_iff {e : Entry} : '/' ∉ e.stem.toList ↔ e.Unslashed := by
  have hdigits (id : TestId) : '/' ∉ (toString id).toList := Text.notMem_repr (by decide) id.toNat
  obtain ⟨_ | _, _ | t⟩ := e <;>
    simp [stem, Unslashed, Destination.overviewStem, Destination.trendStem, hdigits]

theorem toList_trendStem_docs (id : TestId) (word : String) :
    (Destination.docs.trendStem id word).toList =
      "perf_test".toList ++ (id.toNat.repr.toList ++ '_' :: word.toList) := by
  have hid : toString id = id.toNat.repr := rfl
  simp [Destination.trendStem, hid]

theorem trendStem_docs_inj {id id' : TestId} {word word' : String} :
    Destination.docs.trendStem id word = Destination.docs.trendStem id' word' ↔ id = id' ∧ word = word' := by
  rw [← String.toList_inj, toList_trendStem_docs, toList_trendStem_docs, List.append_cancel_left_eq,
    Text.repr_append_inj (by decide), UInt32.toNat_inj, String.toList_inj]

/-- The two letters in which stems of different kinds differ. -/
theorem letters_stem (e : Entry) :
    (e.stem.toList.drop 5).take 2 =
      match e.destination, e.test? with
      | .docs, none => ['o', 'v']
      | .docs, some _ => ['t', 'e']
      | .suite, none => ['c', 'o']
      | .suite, some _ => ['t', 'r'] := by
  obtain ⟨_ | _, _ | t⟩ := e <;>
    simp [stem, Destination.overviewStem, Destination.trendStem]

theorem kind_of_stem_eq {e e' : Entry} (h : e.stem = e'.stem) :
    e.destination = e'.destination ∧ e.test?.isSome = e'.test?.isSome := by
  have hletters := letters_stem e
  rw [h, letters_stem e'] at hletters
  obtain ⟨_ | _, _ | t⟩ := e <;> obtain ⟨_ | _, _ | t'⟩ := e' <;> simp_all

/-- **Stems** are equal for charts that are named alike, and for no others. -/
theorem stem_eq_iff {e e' : Entry} : e.stem = e'.stem ↔ e.Alike e' := by
  constructor
  · intro h
    obtain ⟨hdestination, hsome⟩ := kind_of_stem_eq h
    obtain ⟨d, test?⟩ := e
    obtain ⟨d', test?'⟩ := e'
    obtain rfl : d = d' := hdestination
    cases test? with
    | none =>
      cases test?' with
      | none => exact .overview d
      | some t' => cases hsome
    | some t =>
      cases test?' with
      | none => cases hsome
      | some t' =>
        cases d with
        | docs =>
          obtain ⟨hid, hword⟩ := trendStem_docs_inj.1 h
          exact .docs hid hword
        | suite => exact .suite ((String.append_right_inj _).1 h)
  · rintro (d | ⟨hid, hword⟩ | hword)
    · rfl
    · exact trendStem_docs_inj.2 ⟨hid, hword⟩
    · exact (String.append_right_inj _).2 hword

end Entry

end Plan

end CommitCharts
