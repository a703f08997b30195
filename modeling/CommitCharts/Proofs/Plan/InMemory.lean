import CommitCharts.Proofs.Plan.Frame

/-!
# CommitCharts.Proofs.Plan.InMemory — charts in files and charts as texts

Where a file can be put, what becomes of a job is what becomes of the text of its chart (`Job.run_of_takes`), and the
file holds that text.  What a job for a standard chart reports is never that its test is unknown
(`Plan.execute_text`).
-/

namespace CommitCharts

open FileTree

namespace FileTree

variable {α : Type} {t t' : FileTree α} {p : Path} {content : α}

/-- What is written has no say in whether it can be written. -/
theorem exists_write (h : t.write p content = .ok t') (content' : α) : ∃ after, t.write p content' = .ok after := by
  unfold write at h ⊢
  cases hfault : textFault? p with
  | some fault =>
    rw [hfault] at h
    cases h
  | none =>
    rw [hfault] at h
    dsimp only at h ⊢
    split_ifs at h ⊢
    cases hwalk : t.walk (t.start p) p.dropSlashes.segments with
    | error fault =>
      rw [hwalk] at h
      cases h
    | ok target =>
      rw [hwalk] at h
      cases target with
      | free l => exact ⟨_, rfl⟩
      | found l node =>
        cases node with
        | directory => cases h
        | file old => exact ⟨_, rfl⟩

/-- The tree with the directory of a path, and what kept it from being made. -/
def prepare (t : FileTree α) (p : Path) : FileTree α × Option Fault :=
  match p.parent? with
  | none => (t, none)
  | some dir => t.makeDirectories dir

/-- The directory of the path can be made, and then a file can be written there. -/
structure Takes (t : FileTree α) (p : Path) : Prop where
  directory : (t.prepare p).2 = none
  file : ∃ content after, (t.prepare p).1.write p content = .ok after

end FileTree

variable {files : Files} {s : Series} {catalog : Catalog} {job : Job}

namespace Job

theorem run_of_prepare (h : (files.prepare job.path).2 = none) (s : Series) (catalog : Catalog) :
    job.run files s catalog = Chart.render (files.prepare job.path).1 s catalog job.spec job.path := by
  unfold run
  unfold prepare at h ⊢
  cases hparent : job.path.parent? with
  | none => rfl
  | some dir =>
    rw [hparent] at h
    dsimp only at h ⊢
    cases hmade : files.makeDirectories dir with
    | mk made fault? =>
      rw [hmade] at h
      dsimp only at h
      rw [h]

/-- What the text of a chart makes of a job. -/
def statusOfText (s : Series) : Except Chart.Error (Option String) → Status
  | .error e => .failed e.message
  | .ok none => .insufficient s.size
  | .ok (some _) => .rendered

theorem statusOfText_eq_iff (s : Series) (text? : Except Chart.Error (Option String)) :
    (∀ n, statusOfText s text? = .insufficient n ↔ text? = .ok none ∧ n = s.size) ∧
      (∀ message, statusOfText s text? = .failed message ↔ ∃ e, text? = .error e ∧ e.message = message) ∧
      (statusOfText s text? = .rendered ↔ ∃ text, text? = .ok (some text)) := by
  cases text? with
  | error e => simp [statusOfText]
  | ok text? => cases text? <;> simp [statusOfText, eq_comm]

/-- If a file can be put where a job wants it, the text of the chart decides what becomes of the job, and the file holds
the text. -/
theorem run_of_takes (h : files.Takes job.path) (s : Series) (catalog : Catalog) :
    statusOf (job.run files s catalog).2 = statusOfText s (Chart.text? s catalog job.spec) ∧
      ∀ text, Chart.text? s catalog job.spec = .ok (some text) →
        (files.prepare job.path).1.write job.path (.ofText text) = .ok (job.run files s catalog).1 := by
  obtain ⟨content, after, hwrite⟩ := h.file
  rw [run_of_prepare h.directory]
  rw [Chart.render_eq]
  cases htext : Chart.text? s catalog job.spec with
  | error e => exact ⟨rfl, nofun⟩
  | ok text? =>
    cases text? with
    | none => exact ⟨rfl, nofun⟩
    | some text =>
      obtain ⟨after', hafter⟩ := exists_write hwrite (.ofText text)
      dsimp only
      rw [hafter]
      refine ⟨rfl, ?_⟩
      rintro _ ⟨⟩
      exact hafter

end Job

/-! ### Unknown tests -/

namespace Chart

/-- The message of an unknown test is told from all others by its first letter. -/
theorem head?_unknownTest (id : TestId) : (Error.unknownTest id).message.toList.head? = some 't' := by
  unfold Error.message
  rw [String.toList_append, String.toList_append, List.append_assoc, List.head?_append]
  rfl

theorem head?_plot (reason : String) : (Error.plot reason).message.toList.head? ≠ some 't' := by
  have hplot : "plot render error: ".toList.head? = some 'p' := by decide
  unfold Error.message
  rw [String.toList_append, List.head?_append, hplot, Option.some_or]
  decide

theorem text?_ne_error_of_known {spec : Spec} (h : spec.Known catalog) (s : Series) (e : Error) :
    text? s catalog spec ≠ .error e := by
  unfold text?
  obtain ⟨-, hdraw⟩ | ⟨-, -, d, hdraw⟩ | ⟨-, hunknown, -⟩ := draw?_cases s catalog spec
  · rw [hdraw]
    nofun
  · rw [hdraw]
    nofun
  · exact absurd h hunknown

end Chart

theorem Fault.head?_message (fault : Fault) : fault.message.toList.head? ≠ some 't' := by
  cases fault <;> decide

/-- A job for a chart that can be drawn fails for the sake of its file alone. -/
theorem Job.status_ne_unknownTest (h : job.spec.Known catalog) (files : Files) (s : Series) (id : TestId) :
    statusOf (job.run files s catalog).2 ≠ .failed (Chart.Error.unknownTest id).message := by
  have hmessage {message : String} (hhead : message.toList.head? ≠ some 't') :
      Status.failed message ≠ .failed (Chart.Error.unknownTest id).message := by
    intro heq
    rw [Status.failed.inj heq] at hhead
    exact hhead (Chart.head?_unknownTest id)
  obtain ⟨made, -, -, ⟨fault, hrun⟩ | hrun⟩ := run_cases files s catalog job
  · rw [hrun]
    exact hmessage fault.head?_message
  · rw [hrun]
    rw [Chart.render_eq]
    cases htext : Chart.text? s catalog job.spec with
    | error e => exact absurd htext (Chart.text?_ne_error_of_known h s e)
    | ok text? =>
      cases text? with
      | none => nofun
      | some text =>
        dsimp only
        cases made.write job.path (.ofText text) with
        | ok after => nofun
        | error fault =>
          exact hmessage (Chart.head?_plot _)

namespace Plan

/-- The standard plan has no charts but overviews and trends of its own catalog. -/
theorem known_of_mem_standard {docsDir suiteDir : Path} {sizes : ChartSizes}
    (h : job ∈ (standard catalog docsDir suiteDir sizes).jobs) : job.spec.Known catalog := by
  have hfor {d : Destination} {dir : Path} (hd : job ∈ jobsFor catalog sizes d dir) : job.spec.Known catalog := by
    rcases List.mem_cons.mp hd with rfl | hd
    · trivial
    · obtain ⟨t, ht, rfl⟩ := List.mem_map.mp hd
      exact List.mem_map_of_mem ht
  exact (List.mem_append.mp h).elim hfor hfor

theorem exists_of_mem_charts {p : Plan} {result : JobResult} (h : result ∈ (p.execute files s catalog).2.charts) :
    ∃ job ∈ p.jobs, ∃ before, result.status = Job.statusOf (job.run before s catalog).2 := by
  obtain ⟨jobs⟩ := p
  induction jobs using List.reverseRecOn with
  | nil => cases h
  | append_singleton jobs job ih =>
    rw [charts_concat] at h
    rcases List.mem_append.mp h with h | h
    · obtain ⟨old, hold, hstatus⟩ := ih h
      exact ⟨old, List.mem_append_left _ hold, hstatus⟩
    · rw [List.mem_singleton.mp h]
      exact ⟨job, List.mem_append_right _ (List.mem_singleton_self _), _, rfl⟩

/-- **Charts in files are charts as texts**: where the directory of a chart can be made and a file be put into it, the
job has too few commits exactly if there is no text for want of commits, fails exactly if there is none for an error,
and then with its message, and is rendered exactly if there is a text, which then is in the file.  With fewer than two
commits there is neither, whatever the chart.  A standard plan with its own catalog never misses a test. -/
theorem execute_text :
    (∀ (before : List Job) (job : Job) (after : List Job) (files : Files) (s : Series) (catalog : Catalog),
      ((Plan.mk before).execute files s catalog).1.Takes job.path →
      ∃ status,
        ((Plan.mk (before ++ job :: after)).execute files s catalog).2.charts[before.length]? =
          some ⟨job.path, job.destination, status⟩ ∧
        (∀ n, status = .insufficient n ↔ Chart.text? s catalog job.spec = .ok none ∧ n = s.size) ∧
        (∀ message, status = .failed message ↔
          ∃ e, Chart.text? s catalog job.spec = .error e ∧ e.message = message) ∧
        (status = .rendered ↔ ∃ text, Chart.text? s catalog job.spec = .ok (some text)) ∧
        (∀ text, Chart.text? s catalog job.spec = .ok (some text) →
          ∃ l, ((Plan.mk (before ++ [job])).execute files s catalog).1.Denotes job.path l ∧
            ((Plan.mk (before ++ [job])).execute files s catalog).1.content? l = some (.ofText text)) ∧
        (s.size < 2 → status = .insufficient s.size)) ∧
    (∀ (s : Series) (catalog : Catalog) (spec : Chart.Spec), s.size < 2 → Chart.text? s catalog spec = .ok none) ∧
    ∀ (files : Files) (s : Series) (catalog : Catalog) (docsDir suiteDir : Path) (sizes : ChartSizes) (id : TestId),
      (∀ job ∈ (standard catalog docsDir suiteDir sizes).jobs,
        Chart.text? s catalog job.spec ≠ .error (.unknownTest id)) ∧
      ∀ result ∈ ((standard catalog docsDir suiteDir sizes).execute files s catalog).2.charts,
        result.status ≠ .failed (Chart.Error.unknownTest id).message := by
  refine ⟨fun before job after files s catalog htakes => ?_,
    fun s catalog spec hfew => Chart.text?_of_few hfew catalog spec,
    fun files s catalog docsDir suiteDir sizes id => ⟨fun job hjob => ?_, fun result hresult => ?_⟩⟩
  · obtain ⟨hstatus, hwritten⟩ := Job.run_of_takes htakes s catalog
    obtain ⟨hinsufficient, hfailed, hrendered⟩ := Job.statusOfText_eq_iff s (Chart.text? s catalog job.spec)
    rw [getElem?_charts, hstatus, files_concat]
    refine ⟨_, rfl, hinsufficient, hfailed, hrendered, fun text htext => ?_, fun hfew => ?_⟩
    · obtain ⟨l, hplace, hcontent⟩ := write_denotes (hwritten text htext)
      exact ⟨l, hplace, (hcontent l).trans (if_pos rfl)⟩
    · exact (hinsufficient s.size).2 ⟨Chart.text?_of_few hfew catalog job.spec, rfl⟩
  · exact Chart.text?_ne_error_of_known (known_of_mem_standard hjob) s _
  · obtain ⟨job, hjob, before, hstatus⟩ := exists_of_mem_charts hresult
    rw [hstatus]
    exact Job.status_ne_unknownTest (known_of_mem_standard hjob) before s id

section Mixed

/-- A trend of a test that the catalog does not have. -/
def strayJob : Job := ⟨.docs, .trend 9 ⟨1000, 500⟩, ⟨"doc/trend.svg"⟩⟩

def plainJob : Job := ⟨.docs, .overview "Performance" .short ⟨1200, 600⟩, ⟨"doc/overview.svg"⟩⟩

def twoCommits : Series := { commits := ["new", "old"] }

/-- The first chart cannot be drawn, and fails as its text does; the second one is drawn all the same. -/
theorem execute_text_mixed :
    FileTree.Takes (⟨∅, []⟩ : Files) strayJob.path ∧
      FileTree.Takes ((Plan.mk [strayJob]).execute ⟨∅, []⟩ twoCommits .reference).1 plainJob.path ∧
      ∃ first second,
        ((Plan.mk [strayJob, plainJob]).execute ⟨∅, []⟩ twoCommits .reference).2.charts[0]? =
          some ⟨strayJob.path, .docs, first⟩ ∧
        ((Plan.mk [strayJob, plainJob]).execute ⟨∅, []⟩ twoCommits .reference).2.charts[1]? =
          some ⟨plainJob.path, .docs, second⟩ ∧
        first = .failed "test 9 is not in the catalog" ∧ second = .rendered := by
  have hstray : FileTree.Takes (⟨∅, []⟩ : Files) strayJob.path := ⟨by rfl, .bytes .empty, _, rfl⟩
  have hplain : FileTree.Takes ((Plan.mk [strayJob]).execute ⟨∅, []⟩ twoCommits .reference).1 plainJob.path :=
    ⟨by rfl, .bytes .empty, _, rfl⟩
  obtain ⟨hjobs, -⟩ := execute_text
  obtain ⟨first, hfirst, -, hfailed, -⟩ := hjobs [] strayJob [plainJob] ⟨∅, []⟩ twoCommits .reference hstray
  obtain ⟨second, hsecond, -, -, hrendered, -⟩ := hjobs [strayJob] plainJob [] ⟨∅, []⟩ twoCommits .reference hplain
  exact ⟨hstray, hplain, first, second, hfirst, hsecond, (hfailed _).2 ⟨.unknownTest 9, by rfl, by rfl⟩,
    hrendered.2 ((Chart.exists_text_iff (by decide) .reference plainJob.spec).2 trivial)⟩

end Mixed

end Plan

end CommitCharts
