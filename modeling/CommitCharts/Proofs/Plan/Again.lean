import CommitCharts.Proofs.Plan.Course

/-!
# CommitCharts.Proofs.Plan.Again — executing a plan again

Whatever stopped a job for a plain path stays in its way, and whatever the job made does not (`Job.run_again`).  So a
plan that is executed again gives the same report and makes nothing new (`Plan.execute_again`).
-/

namespace CommitCharts

open FileTree

variable {files files' : Files} {s : Series} {catalog : Catalog} {job : Job} {jobs : List Job}

/-- A chart that is made again in a tree that has grown meets what it met before, and makes nothing new. -/
theorem Chart.course_again {spec : Spec} {path : Path} {names : List String} {last : String} {after : Files}
    {status : Status} (hp : path.Plain) (hnames : path.names = names ++ [last])
    (hpass : files.Passable (files.start path) names) (hcourse : Course files s catalog spec path after status)
    (hmade : Grows files files') (hg : Grows after files') :
    Job.statusOf (render files' s catalog spec path).2 = status ∧
      Grows (render files' s catalog spec path).1 files' := by
  have hpass' : files'.Passable (files'.start path) names := by
    rw [hmade.start]
    exact hpass.grows hmade
  rw [render_plain hp hnames hpass']
  cases hcourse with
  | undrawn text =>
    rw [text]
    exact ⟨rfl, .refl files'⟩
  | insufficient text =>
    rw [text]
    exact ⟨rfl, .refl files'⟩
  | unplaced drawn place =>
    rw [drawn]
    dsimp only
    rw [hmade.placeFault? place]
    exact ⟨rfl, .refl files'⟩
  | placed drawn place =>
    have hne : files.place path ≠ [] := by simp [FileTree.place, hnames]
    obtain ⟨old, hold⟩ := hg.file (l := files.place path) (by rw [node?_put hne, if_pos rfl])
    rw [drawn, hmade.place]
    dsimp only
    have hplace : files'.placeFault? path = none := by
      obtain ⟨htext, hnames, -⟩ := placeFault?_eq_none.mp place
      exact placeFault?_eq_none.mpr ⟨htext, hnames, by rw [hmade.place, hold]; simp⟩
    rw [hplace]
    exact ⟨rfl, .replaced hne hold _⟩

/-- A job that is done again meets what it met before, and makes nothing new. -/
theorem Job.run_again (hc : files.Closed) (hp : job.path.Plain) (hg : Grows (job.run files s catalog).1 files') :
    statusOf (job.run files' s catalog).2 = statusOf (job.run files s catalog).2 ∧
      Grows (job.run files' s catalog).1 files' := by
  have hgrows : Grows files files' := run_grows.trans hg
  obtain ⟨dir, last, after, status, hparent, hnames, hafter, hstatus, hcourse⟩ := course s catalog hc hp
  obtain ⟨dir', -, hparent', -, hrun⟩ := run_plain hp
  obtain rfl : dir' = dir := Option.some.inj (hparent'.symm.trans hparent)
  rw [hafter] at hg
  rw [hrun files', hgrows.start, hstatus]
  cases hcourse with
  | unnamable text =>
    rw [text]
    exact ⟨rfl, .refl files'⟩
  | stopped text making =>
    rw [text]
    dsimp only
    rw [making.again hg]
    exact ⟨rfl, .refl files'⟩
  | @drawn made after status text making chart =>
    have hpass : made.Passable (made.start job.path) dir'.names := by
      rw [making.grows.start]
      exact making.passable
    have hmade : Grows made files' := chart.grows.trans hg
    rw [text]
    dsimp only
    rw [making.again hmade]
    exact Chart.course_again hp hnames hpass chart hmade hg

namespace Plan

/-- A plan that is executed on what it left itself, or on more, gives the same report and makes nothing new. -/
theorem rerun (s : Series) (catalog : Catalog) (hc : files.Closed) (hplain : ∀ job ∈ jobs, job.path.Plain)
    (hg : Grows ((Plan.mk jobs).execute files s catalog).1 files') :
    ((Plan.mk jobs).execute files' s catalog).2 = ((Plan.mk jobs).execute files s catalog).2 ∧
      Grows ((Plan.mk jobs).execute files' s catalog).1 files' := by
  induction jobs using List.reverseRecOn with
  | nil => exact ⟨rfl, .refl files'⟩
  | append_singleton jobs job ih =>
    rw [execute_concat] at hg ⊢
    rw [execute_concat]
    dsimp only at hg ⊢
    obtain ⟨hreport, hmade⟩ := ih (fun job hjob => hplain job (List.mem_append_left _ hjob)) (Job.run_grows.trans hg)
    have hmore : Grows files' ((Plan.mk jobs).execute files' s catalog).1 := execute_grows _
    obtain ⟨hstatus, hmade'⟩ := Job.run_again (execute_closed hc) (hplain job (by simp)) (hg.trans hmore)
    exact ⟨by rw [hreport, hstatus], hmade'.trans hmade⟩

/-- **Executing a plan of plain paths again** on the files it left gives an equal report and leaves the same files and
directories. -/
theorem execute_again (jobs : List Job) (files : Files) (s : Series) (catalog : Catalog) (hc : files.Closed)
    (hplain : ∀ job ∈ jobs, job.path.Plain) :
    let first := (Plan.mk jobs).execute files s catalog
    let second := (Plan.mk jobs).execute first.1 s catalog
    second.2 = first.2 ∧
      ∀ l, (second.1.node? l = some .directory ↔ first.1.node? l = some .directory) ∧
        ((second.1.content? l).isSome = true ↔ (first.1.content? l).isSome = true) := by
  intro first second
  obtain ⟨hreport, hmade⟩ := rerun s catalog hc hplain (.refl first.1)
  have hgrows : Grows first.1 second.1 := execute_grows _
  exact ⟨hreport, fun l => ⟨⟨hmade.directory, hgrows.directory⟩, hmade.isSome_content?, hgrows.isSome_content?⟩⟩

/-- A chart, one where its directory is, and one below the first. -/
def entangled : List Job :=
  ["charts/all.svg", "charts", "charts/all.svg/one.svg"].map fun path =>
    ⟨.docs, .overview "Performance" .short ⟨1200, 600⟩, ⟨path⟩⟩

/-- In an empty tree, where each of the entangled charts is in the way of another. -/
theorem execute_again_entangled :
    let first := (Plan.mk entangled).execute ⟨∅, []⟩ { commits := ["new", "old"] } Catalog.reference
    (FileTree.mk ∅ [] : Files).Closed ∧ (∀ job ∈ entangled, job.path.Plain) ∧
      ((Plan.mk entangled).execute first.1 { commits := ["new", "old"] } Catalog.reference).2 = first.2 := by
  have hplain : ∀ job ∈ entangled, job.path.Plain := by decide
  exact ⟨closed_empty, hplain, (execute_again entangled ⟨∅, []⟩ _ Catalog.reference closed_empty hplain).1⟩

end Plan

end CommitCharts
