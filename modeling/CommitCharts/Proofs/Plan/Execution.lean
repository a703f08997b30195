import CommitCharts.Plan
import CommitCharts.Proofs.Chart.Draw
import CommitCharts.Proofs.FileTree.Contents
import Mathlib.Data.List.Forall2
import Mathlib.Data.List.Induction

/-!
# CommitCharts.Proofs.Plan.Execution — what a plan leaves behind

A job may make directories and write one file, and takes nothing away (`Job.run_grows`).  So the chart of a job that
was rendered is a file when the plan is finished, whatever the jobs after it did (`Plan.execute_done`).
-/

namespace CommitCharts

open FileTree

variable {files : Files} {s : Series} {catalog : Catalog} {job : Job} {jobs : List Job}

/-! ### One chart -/

namespace Chart

variable {spec : Spec} {path : Path}

/-- A chart leaves the files as they were, or it was rendered and is written to its path. -/
theorem render_cases (files : Files) (s : Series) (catalog : Catalog) (spec : Spec) (path : Path) :
    ((render files s catalog spec path).1 = files ∧ Job.statusOf (render files s catalog spec path).2 ≠ .rendered) ∨
      ∃ text, files.write path (.ofText text) = .ok (render files s catalog spec path).1 ∧
        Job.statusOf (render files s catalog spec path).2 = .rendered := by
  rw [render_eq]
  cases text? s catalog spec with
  | error e => exact .inl ⟨rfl, by simp [Job.statusOf]⟩
  | ok text? =>
    cases text? with
    | none => exact .inl ⟨rfl, by simp [Job.statusOf]⟩
    | some text =>
      dsimp only
      cases hw : files.write path (.ofText text) with
      | error fault => exact .inl ⟨rfl, by simp [Job.statusOf]⟩
      | ok files' => exact .inr ⟨text, hw, rfl⟩

theorem render_grows : Grows files (render files s catalog spec path).1 := by
  rcases render_cases files s catalog spec path with ⟨hsame, -⟩ | ⟨text, hw, -⟩
  · rw [hsame]
    exact .refl files
  · exact write_grows hw

theorem isFile_of_rendered (hslash : path.endsInSlash = false)
    (h : Job.statusOf (render files s catalog spec path).2 = .rendered) :
    (render files s catalog spec path).1.IsFile path := by
  rcases render_cases files s catalog spec path with ⟨-, hnot⟩ | ⟨text, hw, -⟩
  · exact absurd h hnot
  · exact write_isFile hslash hw

end Chart

/-! ### One job -/

namespace Job

/-- A job fails for want of its directory, or it is the chart drawn after directories have been made.  Making them
leaves every file as it is. -/
theorem run_cases (files : Files) (s : Series) (catalog : Catalog) (job : Job) :
    ∃ made, Grows files made ∧ (∀ k, made.content? k = files.content? k) ∧
      ((∃ fault, job.run files s catalog = (made, .error (.directory fault))) ∨
        job.run files s catalog = Chart.render made s catalog job.spec job.path) := by
  unfold run
  cases job.path.parent? with
  | none => exact ⟨files, .refl files, fun _ => rfl, .inr rfl⟩
  | some dir =>
    have hmade := makeDirectories_grows files dir
    have hsame := content?_makeDirectories files dir
    dsimp only
    cases hdir : files.makeDirectories dir with
    | mk made fault? =>
      rw [hdir] at hmade hsame
      cases fault? with
      | some fault => exact ⟨made, hmade, hsame, .inl ⟨fault, rfl⟩⟩
      | none => exact ⟨made, hmade, hsame, .inr rfl⟩

theorem run_grows : Grows files (job.run files s catalog).1 := by
  obtain ⟨made, hmade, -, ⟨fault, h⟩ | h⟩ := run_cases files s catalog job
  · rw [h]
    exact hmade
  · rw [h]
    exact hmade.trans Chart.render_grows

theorem isFile_of_rendered (hslash : job.path.endsInSlash = false)
    (hs : statusOf (job.run files s catalog).2 = .rendered) : (job.run files s catalog).1.IsFile job.path := by
  obtain ⟨made, -, -, ⟨fault, h⟩ | h⟩ := run_cases files s catalog job
  · rw [h] at hs
    cases hs
  · rw [h] at hs ⊢
    exact Chart.isFile_of_rendered hslash hs

end Job

/-! ### All jobs -/

namespace Plan

@[simp] theorem execute_nil : (Plan.mk []).execute files s catalog = (files, ⟨[]⟩) := rfl

theorem execute_concat :
    (Plan.mk (jobs ++ [job])).execute files s catalog =
      (let (before, report) := (Plan.mk jobs).execute files s catalog
       let (after, result) := job.run before s catalog
       (after, ⟨report.charts ++ [⟨job.path, job.destination, Job.statusOf result⟩]⟩)) := by
  simp only [execute, List.foldl_append, List.foldl_cons, List.foldl_nil, step]

/-- What the result of a job says about the files. -/
structure Done (files : Files) (job : Job) (result : JobResult) : Prop where
  path : result.path = job.path
  destination : result.destination = job.destination
  written : job.path.endsInSlash = false → result.status = .rendered → files.IsFile job.path

theorem Done.grows {files' : Files} {result : JobResult} (h : Done files job result) (hg : Grows files files') :
    Done files' job result :=
  ⟨h.path, h.destination, fun hslash hs => hg.isFile (h.written hslash hs)⟩

theorem execute_grows (p : Plan) : Grows files (p.execute files s catalog).1 := by
  obtain ⟨jobs⟩ := p
  induction jobs using List.reverseRecOn with
  | nil =>
    rw [execute_nil]
    exact .refl files
  | append_singleton jobs job ih =>
    rw [execute_concat]
    exact ih.trans Job.run_grows

/-- Every job has its result, and a chart that was rendered is still there at the end. -/
theorem execute_done (p : Plan) (files : Files) (s : Series) (catalog : Catalog) :
    List.Forall₂ (Done (p.execute files s catalog).1) p.jobs (p.execute files s catalog).2.charts := by
  obtain ⟨jobs⟩ := p
  induction jobs using List.reverseRecOn with
  | nil =>
    rw [execute_nil]
    exact .nil
  | append_singleton jobs job ih =>
    rw [execute_concat]
    have hgrows : Grows ((Plan.mk jobs).execute files s catalog).1
        (job.run ((Plan.mk jobs).execute files s catalog).1 s catalog).1 := Job.run_grows
    refine List.rel_append (ih.imp fun _ _ h => h.grows hgrows) (.cons ⟨rfl, rfl, ?_⟩ .nil)
    exact fun hslash hs => Job.isFile_of_rendered hslash hs

/-! ### The standard plan -/

theorem chartPath_endsInSlash (dir : Path) (stem : String) : (chartPath dir stem).endsInSlash = false := by
  unfold chartPath
  rw [Path.endsInSlash_join (by simp)]
  simp [Path.endsInSlash]

theorem endsInSlash_of_mem_standard {docsDir suiteDir : Path} {sizes : ChartSizes}
    (h : job ∈ (standard catalog docsDir suiteDir sizes).jobs) : job.path.endsInSlash = false := by
  have hfor {d : Destination} {dir : Path} (hd : job ∈ jobsFor catalog sizes d dir) : job.path.endsInSlash = false := by
    rcases List.mem_cons.mp hd with rfl | hd
    · exact chartPath_endsInSlash dir _
    · obtain ⟨t, -, rfl⟩ := List.mem_map.mp hd
      exact chartPath_endsInSlash dir _
  rcases List.mem_append.mp h with h | h
  · exact hfor h
  · exact hfor h

/-- If the standard plan succeeds, its charts are files. -/
theorem isFile_of_success {docsDir suiteDir : Path} {sizes : ChartSizes}
    (hs : ((standard catalog docsDir suiteDir sizes).execute files s catalog).2.success = true)
    (h : job ∈ (standard catalog docsDir suiteDir sizes).jobs) :
    ((standard catalog docsDir suiteDir sizes).execute files s catalog).1.IsFile job.path := by
  have hslash := endsInSlash_of_mem_standard h
  have hall := execute_done (standard catalog docsDir suiteDir sizes) files s catalog
  obtain ⟨i, hi, rfl⟩ := List.getElem_of_mem h
  have hi' := hall.length_eq ▸ hi
  have hdone := hall.get hi hi'
  have hstatus := List.all_eq_true.mp hs _ (List.getElem_mem hi')
  exact hdone.written hslash (by simpa using hstatus)

end Plan

end CommitCharts
