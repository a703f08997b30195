import CommitCharts.Proofs.FileTree.Contents
import CommitCharts.Proofs.Plan.Execution

/-!
# CommitCharts.Proofs.Plan.Frame — which files a plan touches

A job that was rendered changes the file that its path denotes, and a job that was not changes none
(`Job.run_frame`).  So a plan adds exactly the files of the jobs that were rendered (`Plan.execute_frame`).
-/

namespace CommitCharts

open FileTree

variable {files : Files} {s : Series} {catalog : Catalog} {job : Job} {jobs : List Job}

/-! ### One job -/

/-- A job was rendered and changed the file its path denotes, or it was not and changed none. -/
inductive Job.Framed (before after : Files) (job : Job) : Status → Prop where
  | kept {status : Status} (missed : status ≠ .rendered) (same : ∀ k, after.content? k = before.content? k) :
      Framed before after job status
  | written (l : Location) (text : Content) (place : after.Denotes job.path l)
      (changed : ∀ k, after.content? k = if k = l then some text else before.content? k) :
      Framed before after job .rendered

theorem Job.run_frame (files : Files) (s : Series) (catalog : Catalog) (job : Job) :
    Job.Framed files (job.run files s catalog).1 job (Job.statusOf (job.run files s catalog).2) := by
  obtain ⟨made, -, hmade, ⟨fault, h⟩ | h⟩ := run_cases files s catalog job
  · rw [h]
    exact .kept (by simp [statusOf]) hmade
  · rw [h]
    rcases Chart.render_cases made s catalog job.spec job.path with ⟨hsame, hmissed⟩ | ⟨text, hwrite, hrendered⟩
    · refine .kept hmissed fun k => ?_
      rw [hsame, hmade]
    · obtain ⟨l, hplace, hchanged⟩ := write_denotes hwrite
      rw [hrendered]
      refine .written l (.ofText text) hplace fun k => ?_
      rw [hchanged, hmade]

namespace Plan

/-! ### All jobs -/

theorem files_concat :
    ((Plan.mk (jobs ++ [job])).execute files s catalog).1 =
      (job.run ((Plan.mk jobs).execute files s catalog).1 s catalog).1 := by
  rw [execute_concat]

theorem charts_concat :
    ((Plan.mk (jobs ++ [job])).execute files s catalog).2.charts =
      ((Plan.mk jobs).execute files s catalog).2.charts ++
        [⟨job.path, job.destination,
          Job.statusOf (job.run ((Plan.mk jobs).execute files s catalog).1 s catalog).2⟩] := by
  rw [execute_concat]

theorem charts_prefix (before after : List Job) (files : Files) (s : Series) (catalog : Catalog) :
    ((Plan.mk before).execute files s catalog).2.charts <+:
      ((Plan.mk (before ++ after)).execute files s catalog).2.charts := by
  induction after using List.reverseRecOn with
  | nil => simp
  | append_singleton after job ih =>
    rw [← List.append_assoc, charts_concat]
    exact ih.trans (List.prefix_append _ _)

/-- The result of every job stands in the place of the job. -/
theorem map_charts (p : Plan) (files : Files) (s : Series) (catalog : Catalog) :
    (p.execute files s catalog).2.charts.map (fun r => (r.path, r.destination)) =
      p.jobs.map fun job => (job.path, job.destination) := by
  obtain ⟨jobs⟩ := p
  induction jobs using List.reverseRecOn with
  | nil => rfl
  | append_singleton jobs job ih =>
    rw [charts_concat, List.map_append, List.map_append, ih, List.map_singleton, List.map_singleton]

theorem length_charts (p : Plan) (files : Files) (s : Series) (catalog : Catalog) :
    (p.execute files s catalog).2.charts.length = p.jobs.length := by
  simpa using congrArg List.length (map_charts p files s catalog)

/-- A job works on the files that the jobs before it left, and what became of it stands in its place. -/
theorem getElem?_charts (before : List Job) (job : Job) (after : List Job) (files : Files) (s : Series)
    (catalog : Catalog) :
    ((Plan.mk (before ++ job :: after)).execute files s catalog).2.charts[before.length]? =
      some ⟨job.path, job.destination,
        Job.statusOf (job.run ((Plan.mk before).execute files s catalog).1 s catalog).2⟩ := by
  obtain ⟨later, hlater⟩ := charts_prefix (before ++ [job]) after files s catalog
  rw [List.append_assoc, List.singleton_append] at hlater
  have hlength := length_charts (Plan.mk before) files s catalog
  rw [← hlater, charts_concat, List.append_assoc, List.getElem?_append_right (Nat.le_of_eq hlength), hlength]
  simp

/-- A job that was rendered, with the file that its path denotes in the end. -/
def Drawn (p : Plan) (files : Files) (s : Series) (catalog : Catalog) (l : Location) : Prop :=
  ∃ job result, (job, result) ∈ p.jobs.zip (p.execute files s catalog).2.charts ∧ result.status = .rendered ∧
    (p.execute files s catalog).1.Denotes job.path l

theorem drawn_concat {l : Location} (h : (Plan.mk jobs).Drawn files s catalog l) (job : Job) :
    (Plan.mk (jobs ++ [job])).Drawn files s catalog l := by
  obtain ⟨old, result, hmem, hrendered, hplace⟩ := h
  refine ⟨old, result, ?_, hrendered, ?_⟩
  · rw [charts_concat, List.zip_append (length_charts (Plan.mk jobs) files s catalog).symm]
    exact List.mem_append_left _ hmem
  · rw [files_concat]
    exact Job.run_grows.denotes hplace

/-- A file that is there when a plan is finished was there before, or it was drawn. -/
theorem drawn_of_isSome_content? {l : Location}
    (h : (((Plan.mk jobs).execute files s catalog).1.content? l).isSome = true) :
    (files.content? l).isSome = true ∨ (Plan.mk jobs).Drawn files s catalog l := by
  induction jobs using List.reverseRecOn with
  | nil => exact .inl h
  | append_singleton jobs job ih =>
    have hold (hl : (((Plan.mk jobs).execute files s catalog).1.content? l).isSome = true) :
        (files.content? l).isSome = true ∨ (Plan.mk (jobs ++ [job])).Drawn files s catalog l :=
      (ih hl).imp_right (drawn_concat · job)
    rw [files_concat] at h
    generalize hstatus : Job.statusOf (job.run ((Plan.mk jobs).execute files s catalog).1 s catalog).2 = status
    cases hstatus ▸ Job.run_frame ((Plan.mk jobs).execute files s catalog).1 s catalog job with
    | kept missed same => exact hold (by rwa [same] at h)
    | written k text place changed =>
      rw [changed] at h
      split_ifs at h with hk
      · subst hk
        refine .inr ⟨job, ⟨job.path, job.destination, .rendered⟩, ?_, rfl, by rw [files_concat]; exact place⟩
        rw [charts_concat, List.zip_append (length_charts (Plan.mk jobs) files s catalog).symm, hstatus]
        exact List.mem_append_right _ (List.mem_singleton_self _)
      · exact hold h

/-- **The frame of a plan**: every job has one result, in the order of the jobs.  The files in the end are those of
the beginning and those denoted by the paths of rendered jobs.  A job that was not rendered leaves every file as the
jobs before it left it, and a rendered one all files but its own. -/
theorem execute_frame (jobs : List Job) (files : Files) (s : Series) (catalog : Catalog) :
    ((Plan.mk jobs).execute files s catalog).2.charts.map (fun r => (r.path, r.destination)) =
        jobs.map (fun job => (job.path, job.destination)) ∧
      (∀ l, (((Plan.mk jobs).execute files s catalog).1.content? l).isSome = true ↔
        (files.content? l).isSome = true ∨ (Plan.mk jobs).Drawn files s catalog l) ∧
      ∀ before job after, jobs = before ++ job :: after →
        ∃ status,
          ((Plan.mk jobs).execute files s catalog).2.charts[before.length]? =
            some ⟨job.path, job.destination, status⟩ ∧
          Job.Framed ((Plan.mk before).execute files s catalog).1
            ((Plan.mk (before ++ [job])).execute files s catalog).1 job status := by
  refine ⟨map_charts _ files s catalog, fun l => ⟨drawn_of_isSome_content?, ?_⟩, ?_⟩
  · rintro (hold | ⟨job, result, -, -, hplace⟩)
    · exact (execute_grows (Plan.mk jobs)).isSome_content? hold
    · exact hplace.isSome_content?
  · rintro before job after rfl
    refine ⟨_, getElem?_charts before job after files s catalog, ?_⟩
    rw [files_concat]
    exact Job.run_frame _ s catalog job

end Plan

end CommitCharts
