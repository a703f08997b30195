import CommitCharts.Proofs.FileTree.Descent
import CommitCharts.Proofs.Plan.Execution

/-!
# CommitCharts.Proofs.Plan.Course — jobs for plain paths

A job for a plain path makes the directories along its names and puts its chart at their end.  In a closed tree there
are few ways in which this can go (`Job.course`).
-/

namespace CommitCharts

open FileTree

variable {files : Files} {s : Series} {catalog : Catalog} {job : Job} {jobs : List Job}

/-! ### One chart -/

namespace Chart

variable {spec : Spec} {path : Path} {names : List String} {last : String}

theorem render_plain (hp : path.Plain) (hnames : path.names = names ++ [last])
    (hpass : files.Passable (files.start path) names) (spec : Spec) :
    render files s catalog spec path =
      match text? s catalog spec with
      | .error e => (files, .error e)
      | .ok none => (files, .ok (.insufficient s.size))
      | .ok (some text) =>
        match files.placeFault? path with
        | some fault => (files, .error (unwritten fault))
        | none => (files.put (files.place path) (.file (.ofText text)), .ok (.rendered path)) := by
  rw [render_eq]
  cases text? s catalog spec with
  | error e => rfl
  | ok text? =>
    cases text? with
    | none => rfl
    | some text =>
      dsimp only
      rw [write_plain hp hnames hpass]
      cases files.placeFault? path <;> rfl

/-- What becomes of a chart and of the files when its directory is there. -/
inductive Course (files : Files) (s : Series) (catalog : Catalog) (spec : Spec) (path : Path) :
    Files → Status → Prop where
  | undrawn {e : Error} (text : text? s catalog spec = .error e) :
      Course files s catalog spec path files (.failed e.message)
  | insufficient (text : text? s catalog spec = .ok none) :
      Course files s catalog spec path files (.insufficient s.size)
  | unplaced {text : String} {fault : Fault} (drawn : text? s catalog spec = .ok (some text))
      (place : files.placeFault? path = some fault) :
      Course files s catalog spec path files (.failed (unwritten fault).message)
  | placed {text : String} (drawn : text? s catalog spec = .ok (some text)) (place : files.placeFault? path = none) :
      Course files s catalog spec path (files.put (files.place path) (.file (.ofText text))) .rendered

theorem Course.grows {after : Files} {status : Status} (h : Course files s catalog spec path after status) :
    Grows files after := by
  cases h with
  | undrawn => exact .refl files
  | insufficient => exact .refl files
  | unplaced => exact .refl files
  | placed drawn place =>
    have hkind := (placeFault?_eq_none.mp place).2.2
    refine .put (ne_nil_of_node? hkind) fun old hold => ?_
    cases old with
    | directory => exact absurd hold hkind
    | file content => trivial

theorem course (hp : path.Plain) (hnames : path.names = names ++ [last])
    (hpass : files.Passable (files.start path) names) :
    Course files s catalog spec path (render files s catalog spec path).1
      (Job.statusOf (render files s catalog spec path).2) := by
  rw [render_plain hp hnames hpass]
  cases htext : text? s catalog spec with
  | error e => exact .undrawn htext
  | ok text? =>
    cases text? with
    | none => exact .insufficient htext
    | some text =>
      dsimp only
      cases hplace : files.placeFault? path with
      | some fault => exact .unplaced htext hplace
      | none => exact .placed htext hplace

end Chart

/-! ### One job -/

namespace Job

/-- A job for a plain path makes directories along all its names but the last one. -/
theorem run_plain (hp : job.path.Plain) :
    ∃ dir last, job.path.parent? = some dir ∧ job.path.names = dir.names ++ [last] ∧
      ∀ (files : Files) (s : Series) (catalog : Catalog),
        job.run files s catalog =
          match textFaultAlong? dir with
          | some fault => (files, .error (.directory fault))
          | none =>
            match files.makeAlong false (files.start job.path) dir.names with
            | (made, some fault) => (made, .error (.directory fault))
            | (made, none) => Chart.render made s catalog job.spec job.path := by
  obtain ⟨dir, last, hparent, habove, hnames⟩ := hp.parent
  refine ⟨dir, last, hparent, hnames, fun files s catalog => ?_⟩
  have hstart : files.start dir = files.start job.path := by
    unfold FileTree.start
    rw [habove.absolute]
  unfold run
  rw [hparent]
  dsimp only
  rw [makeDirectories_eq, hstart]
  cases textFaultAlong? dir <;> rfl

/-- What becomes of a job and of the files. -/
inductive Course (files : Files) (s : Series) (catalog : Catalog) (job : Job) (dir : Path) : Files → Status → Prop where
  | unnamable {fault : Fault} (text : textFaultAlong? dir = some fault) :
      Course files s catalog job dir files (.failed fault.message)
  | stopped {made : Files} {fault : Fault} (text : textFaultAlong? dir = none)
      (making : Making files (files.start job.path) dir.names made (some fault)) :
      Course files s catalog job dir made (.failed fault.message)
  | drawn {made after : Files} {status : Status} (text : textFaultAlong? dir = none)
      (making : Making files (files.start job.path) dir.names made none)
      (chart : Chart.Course made s catalog job.spec job.path after status) : Course files s catalog job dir after status

theorem course (s : Series) (catalog : Catalog) (hc : files.Closed) (hp : job.path.Plain) :
    ∃ dir last after status,
      job.path.parent? = some dir ∧ job.path.names = dir.names ++ [last] ∧ (job.run files s catalog).1 = after ∧
        statusOf (job.run files s catalog).2 = status ∧ Course files s catalog job dir after status := by
  obtain ⟨dir, last, hparent, hnames, hrun⟩ := run_plain hp
  refine ⟨dir, last, _, _, hparent, hnames, rfl, rfl, ?_⟩
  have hdown : Path.Descending dir.names := fun name hname => hp.descending name (by simp [hnames, hname])
  have hmaking := making hc (hc.start job.path) hdown
  rw [hrun]
  cases htext : textFaultAlong? dir with
  | some fault => exact .unnamable htext
  | none =>
    dsimp only
    generalize files.makeAlong false (files.start job.path) dir.names = result at hmaking ⊢
    obtain ⟨made, fault?⟩ := result
    cases fault? with
    | some fault => exact .stopped htext hmaking
    | none =>
      refine .drawn htext hmaking (Chart.course hp hnames ?_)
      rw [hmaking.grows.start]
      exact hmaking.passable

theorem run_closed (h : files.Closed) : (job.run files s catalog).1.Closed := by
  have hrender {made : Files} (hmade : made.Closed) : (Chart.render made s catalog job.spec job.path).1.Closed := by
    rcases Chart.render_cases made s catalog job.spec job.path with ⟨hsame, -⟩ | ⟨text, hw, -⟩
    · rwa [hsame]
    · exact write_closed hmade hw
  unfold run
  cases job.path.parent? with
  | none => exact hrender h
  | some dir =>
    have hmade := makeDirectories_closed h dir
    dsimp only
    cases hdir : files.makeDirectories dir with
    | mk made fault? =>
      rw [hdir] at hmade
      cases fault? with
      | some fault => exact hmade
      | none => exact hrender hmade

end Job

theorem Plan.execute_closed (h : files.Closed) : ((Plan.mk jobs).execute files s catalog).1.Closed := by
  induction jobs using List.reverseRecOn with
  | nil => exact h
  | append_singleton jobs job ih =>
    rw [execute_concat]
    exact Job.run_closed ih

end CommitCharts
