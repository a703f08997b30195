import CommitCharts.Proofs.Plan.Placement
import Mathlib.Data.List.Dedup

/-!
# CommitCharts.Proofs.Plan.Overlap — when charts of the standard plan overwrite each other

If no word has a slash, the name of a chart tells the chart as far as its stem does, whatever the two directories are.
So no two charts have the same path exactly if the words of the tests are distinct (`standard_paths_nodup_iff`).
-/

namespace CommitCharts.Plan

variable {catalog : Catalog} {docsDir suiteDir : Path} {sizes : ChartSizes}

namespace Entry

variable {e e' : Entry}

theorem name?_path (h : e.Unslashed) : (e.path docsDir suiteDir).name? = some e.fileName := by
  rw [Path.name?, (e.components_path docsDir suiteDir).2, components_fileName_iff.2 h, List.getLast?_concat]

theorem Alike.destination_eq (h : e.Alike e') : e.destination = e'.destination := by
  cases h <;> rfl

theorem Alike.path_eq (h : e.Alike e') : e.path docsDir suiteDir = e'.path docsDir suiteDir := by
  rw [path, path, h.destination_eq, stem_eq_iff.2 h]

/-- The last component of a path tells the chart. -/
theorem alike_of_name?_eq (h : e.Unslashed) (h' : e'.Unslashed)
    (hname : (e.path docsDir suiteDir).name? = (e'.path docsDir suiteDir).name?) : e.Alike e' := by
  rw [name?_path h, name?_path h', Option.some_inj, fileName, fileName, String.append_left_inj] at hname
  exact stem_eq_iff.1 hname

/-- **Two charts have the same path**, up to slashes and dots, if and only if they are named alike. -/
theorem same_path_iff (h : e.Unslashed) (h' : e'.Unslashed) :
    (e.path docsDir suiteDir).Same (e'.path docsDir suiteDir) ↔ e.Alike e' := by
  constructor
  · intro hsame
    exact alike_of_name?_eq h h' (congrArg List.getLast? hsame.components)
  · intro halike
    rw [halike.path_eq]
    exact ⟨rfl, rfl⟩

theorem path_eq_iff (h : e.Unslashed) (h' : e'.Unslashed) :
    e.path docsDir suiteDir = e'.path docsDir suiteDir ↔ e.Alike e' :=
  ⟨fun heq => alike_of_name?_eq h h' (congrArg Path.name? heq), Alike.path_eq⟩

end Entry

theorem destination_of_mem_entriesFor {d : Destination} {e : Entry} (h : e ∈ entriesFor catalog d) :
    e.destination = d := by
  rcases List.mem_cons.1 h with rfl | h
  · rfl
  · obtain ⟨t, -, rfl⟩ := List.mem_map.1 h
    rfl

theorem pairwise_entriesFor_iff (d : Destination) :
    (entriesFor catalog d).Pairwise (fun e e' => ¬ e.Alike e') ↔
      catalog.tests.Pairwise fun t t' => ¬ Entry.Alike ⟨d, some t⟩ ⟨d, some t'⟩ := by
  rw [entriesFor, List.pairwise_cons, List.pairwise_map]
  refine and_iff_right fun e he halike => ?_
  obtain ⟨t, -, rfl⟩ := List.mem_map.1 he
  cases halike

/-- Distinct words keep apart the trends of the test suite, and those of the documentation even more. -/
theorem pairwise_entries_iff :
    (entries catalog).Pairwise (fun e e' => ¬ e.Alike e') ↔ (catalog.tests.map Test.fileWord).Nodup := by
  have hcross : ∀ e ∈ entriesFor catalog .docs, ∀ e' ∈ entriesFor catalog .suite, ¬ e.Alike e' := by
    intro e he e' he' halike
    have hdestination := halike.destination_eq
    rw [destination_of_mem_entriesFor he, destination_of_mem_entriesFor he'] at hdestination
    cases hdestination
  rw [entries, List.pairwise_append, pairwise_entriesFor_iff, pairwise_entriesFor_iff, List.Nodup, List.pairwise_map]
  constructor
  · -- the trends of the test suite are told by their words alone
    rintro ⟨-, hsuite, -⟩
    exact hsuite.imp fun hne hword => hne (.suite hword)
  · intro hnodup
    refine ⟨hnodup.imp fun hne halike => ?_, hnodup.imp fun hne halike => ?_, hcross⟩
    · cases halike with
      | docs _ hword => exact hne hword
    · cases halike with
      | suite hword => exact hne hword

theorem unslashed_of_mem (hwords : ∀ t ∈ catalog.tests, '/' ∉ t.fileWord.toList) {e : Entry}
    (h : e ∈ entries catalog) : e.Unslashed :=
  fun t ht => hwords t (mem_entries_iff.1 h t ht)

/-- A list has as many different members as members exactly if none occurs twice. -/
theorem length_dedup_eq_iff {α : Type} [DecidableEq α] {xs : List α} : xs.dedup.length = xs.length ↔ xs.Nodup :=
  ⟨fun h => List.dedup_eq_self.1 ((List.dedup_sublist xs).eq_of_length h), fun h => by rw [List.dedup_eq_self.2 h]⟩

/-- Two charts of the plan, in any places of it, stand at the same path exactly if they are named alike. -/
theorem same_iff_of_getElem? (hwords : ∀ t ∈ catalog.tests, '/' ∉ t.fileWord.toList) {i j : Nat} {job job' : Job}
    (hi : (standard catalog docsDir suiteDir sizes).jobs[i]? = some job)
    (hj : (standard catalog docsDir suiteDir sizes).jobs[j]? = some job') :
    ∃ e e', (entries catalog)[i]? = some e ∧ (entries catalog)[j]? = some e' ∧
      job = e.job docsDir suiteDir sizes ∧ job' = e'.job docsDir suiteDir sizes ∧
      (job.path.Same job'.path ↔ e.Alike e') := by
  rw [jobs_standard, List.getElem?_map, Option.map_eq_some_iff] at hi hj
  obtain ⟨e, he, rfl⟩ := hi
  obtain ⟨e', he', rfl⟩ := hj
  exact ⟨e, e', he, he', rfl, rfl, Entry.same_path_iff (unslashed_of_mem hwords (List.mem_of_getElem? he))
    (unslashed_of_mem hwords (List.mem_of_getElem? he'))⟩

/-- **Overlap**: of the charts for tests whose words have no slash, those that are named alike have the same path, and
no others.  So the paths are distinct, as texts and up to slashes and dots, exactly if the words are, and only then are
there as many different paths as charts. -/
theorem standard_paths_nodup_iff (docsDir suiteDir : Path) (sizes : ChartSizes)
    (hwords : ∀ t ∈ catalog.tests, '/' ∉ t.fileWord.toList) :
    (((standard catalog docsDir suiteDir sizes).jobs.map (·.path)).Nodup ↔
      (catalog.tests.map Test.fileWord).Nodup) ∧
    (((standard catalog docsDir suiteDir sizes).jobs.map (·.path)).dedup.length = 2 * (catalog.size + 1) ↔
      (catalog.tests.map Test.fileWord).Nodup) ∧
    (((standard catalog docsDir suiteDir sizes).jobs.map (·.path)).Pairwise (fun p q => ¬ p.Same q) ↔
      (catalog.tests.map Test.fileWord).Nodup) ∧
    ∀ (i j : Nat) (job job' : Job), (standard catalog docsDir suiteDir sizes).jobs[i]? = some job →
      (standard catalog docsDir suiteDir sizes).jobs[j]? = some job' →
      ∃ e e', (entries catalog)[i]? = some e ∧ (entries catalog)[j]? = some e' ∧
        job = e.job docsDir suiteDir sizes ∧ job' = e'.job docsDir suiteDir sizes ∧
        (job.path.Same job'.path ↔ e.Alike e') := by
  have hnodup : ((standard catalog docsDir suiteDir sizes).jobs.map (·.path)).Nodup ↔
      (catalog.tests.map Test.fileWord).Nodup := by
    rw [jobs_standard, List.map_map, List.Nodup, List.pairwise_map, ← pairwise_entries_iff]
    exact List.Pairwise.iff_of_mem fun he he' =>
      not_congr (Entry.path_eq_iff (unslashed_of_mem hwords he) (unslashed_of_mem hwords he'))
  have hlength : ((standard catalog docsDir suiteDir sizes).jobs.map (·.path)).length = 2 * (catalog.size + 1) :=
    (List.length_map _).trans (size_standard catalog docsDir suiteDir sizes)
  refine ⟨hnodup, ?_, ?_, fun i j job job' hi hj => same_iff_of_getElem? hwords hi hj⟩
  · rw [← hlength, length_dedup_eq_iff]
    exact hnodup
  · rw [jobs_standard, List.map_map, List.pairwise_map, ← pairwise_entries_iff]
    exact List.Pairwise.iff_of_mem fun he he' =>
      not_congr (Entry.same_path_iff (unslashed_of_mem hwords he) (unslashed_of_mem hwords he'))

section Close

/-- Two tests whose ids and words look alike once they are put together. -/
def closeCatalog : Catalog := ⟨[⟨1, "Test 1: 2_a (1K)", ⟨0, 0, 0⟩⟩, ⟨12, "Test 12: a (1K)", ⟨0, 0, 0⟩⟩]⟩

/-- All six charts keep apart, in one directory written in two ways. -/
theorem standard_paths_nodup_close :
    (∀ t ∈ closeCatalog.tests, '/' ∉ t.fileWord.toList) ∧
      ((standard closeCatalog ⟨"doc"⟩ ⟨"doc/"⟩ {}).jobs.map (·.path)).Pairwise (fun p q => ¬ p.Same q) := by
  have hwords : ∀ t ∈ closeCatalog.tests, '/' ∉ t.fileWord.toList := by decide +kernel
  obtain ⟨-, -, hpaths, -⟩ := standard_paths_nodup_iff ⟨"doc"⟩ ⟨"doc/"⟩ {} hwords
  exact ⟨hwords, hpaths.2 (by decide +kernel)⟩

end Close

end CommitCharts.Plan
