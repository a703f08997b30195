import CommitCharts.Proofs.FileTree.Obstacle
import CommitCharts.Proofs.Plan.Course

/-!
# CommitCharts.Proofs.Plan.Verdict — what decides about a job

What becomes of a job for a plain path can be told from the tree before it (`Job.status_eq_verdict`): by the files above
the place of its chart and by whether there is a directory in that place (`Job.verdict_congr`).
-/

namespace CommitCharts

open FileTree

variable {files files' : Files} {s : Series} {catalog : Catalog} {job : Job} {k : Location}

/-- What keeps the directory of a path from being made. -/
def FileTree.wayFault? {α : Type} (t : FileTree α) (p : Path) : Option Fault :=
  p.parent?.bind fun dir => (textFaultAlong? dir).or (t.obstacle? (t.start p) dir.names)

theorem FileTree.wayFault?_eq {α : Type} {t : FileTree α} {p dir : Path} (h : p.parent? = some dir) :
    t.wayFault? p = (textFaultAlong? dir).or (t.obstacle? (t.start p) dir.names) := by
  rw [wayFault?, h, Option.bind_some]

/-- Above a location, and not the location itself. -/
def FileTree.StrictlyAbove (k l : Location) : Prop := k <+: l ∧ k ≠ l

instance (k l : Location) : Decidable (StrictlyAbove k l) := inferInstanceAs (Decidable (_ ∧ _))

namespace Job

/-- What becomes of a job for a plain path in a closed tree. -/
def verdict (files : Files) (s : Series) (catalog : Catalog) (job : Job) : Status :=
  match files.wayFault? job.path with
  | some fault => .failed fault.message
  | none =>
    match Chart.text? s catalog job.spec with
    | .error e => .failed e.message
    | .ok none => .insufficient s.size
    | .ok (some _) =>
      match files.placeFault? job.path with
      | some fault => .failed (Chart.unwritten fault).message
      | none => .rendered

theorem verdict_unplaced {text : String} {fault : Fault} (hway : files.wayFault? job.path = none)
    (hdrawn : Chart.text? s catalog job.spec = .ok (some text)) (hplace : files.placeFault? job.path = some fault) :
    job.verdict files s catalog = .failed (Chart.unwritten fault).message := by
  unfold verdict
  rw [hway, hdrawn]
  dsimp only
  rw [hplace]

/-- Where the directory of a chart leads, and all above it, is strictly above the place of the chart. -/
theorem strictlyAbove_place {dir : Path} {last : String} (hnames : job.path.names = dir.names ++ [last])
    (h : k <+: files.start job.path ++ dir.names) : StrictlyAbove k (files.place job.path) := by
  have hplace : files.place job.path = files.start job.path ++ dir.names ++ [last] := by
    rw [place, hnames, List.append_assoc]
  refine ⟨?_, ?_⟩
  · rw [hplace]
    exact h.trans (List.prefix_append _ _)
  · rintro rfl
    have hlength := h.length_le
    rw [hplace, List.length_append, List.length_singleton] at hlength
    omega

/-- Making the directory of a chart puts nothing in the place of the chart. -/
theorem placeFault?_making {dir : Path} {last : String} {made : Files} {fault : Option Fault}
    (hnames : job.path.names = dir.names ++ [last]) (h : Making files (files.start job.path) dir.names made fault) :
    made.placeFault? job.path = files.placeFault? job.path := by
  refine placeFault?_congr h.grows.working ?_
  rcases h.node?_eq (files.place job.path) with hsame | ⟨-, habove⟩
  · rw [hsame]
  · exact absurd rfl (strictlyAbove_place hnames habove).2

theorem status_eq_verdict (hc : files.Closed) (hp : job.path.Plain) :
    statusOf (job.run files s catalog).2 = job.verdict files s catalog := by
  obtain ⟨dir, last, after, status, hparent, hnames, -, hstatus, hcourse⟩ := course s catalog hc hp
  unfold verdict
  rw [hstatus, wayFault?_eq hparent]
  cases hcourse with
  | unnamable text => rw [text, Option.some_or]
  | stopped text making => rw [text, Option.none_or, ← making.obstacle]
  | drawn text making chart =>
    have hplace := placeFault?_making hnames making
    rw [text, Option.none_or, ← making.obstacle]
    cases chart with
    | undrawn text => rw [text]
    | insufficient text => rw [text]
    | unplaced drawn place => rw [drawn, ← hplace, place]
    | placed drawn place => rw [drawn, ← hplace, place]

/-- Two trees decide alike about a job if they have the same files above the place of its chart, and both or none have a
directory in that place. -/
theorem verdict_congr (hp : job.path.Plain) (hworking : files'.working = files.working)
    (habove : ∀ k, StrictlyAbove k (files.place job.path) →
      (files'.content? k).isSome = (files.content? k).isSome)
    (hplace : files'.node? (files.place job.path) = some .directory ↔
      files.node? (files.place job.path) = some .directory) :
    job.verdict files' s catalog = job.verdict files s catalog := by
  obtain ⟨dir, last, hparent, -, hnames⟩ := hp.parent
  have hstart : files'.start job.path = files.start job.path := by
    unfold start
    rw [hworking]
  have hobstacle :
      files'.obstacle? (files.start job.path) dir.names = files.obstacle? (files.start job.path) dir.names :=
    obstacle?_congr fun names hpre =>
      habove _ (strictlyAbove_place hnames ((List.prefix_append_right_inj _).mpr hpre))
  unfold verdict
  rw [wayFault?_eq hparent, wayFault?_eq hparent, hstart, hobstacle, placeFault?_congr hworking hplace]

/-! ### What a job makes -/

theorem directory_of_run (hc : files.Closed) (hp : job.path.Plain)
    (hk : (job.run files s catalog).1.node? k = some .directory) :
    files.node? k = some .directory ∨ StrictlyAbove k (files.place job.path) := by
  obtain ⟨dir, last, after, status, -, hnames, hafter, -, hcourse⟩ := course s catalog hc hp
  have hmaking {made : Files} {fault : Option Fault} (h : Making files (files.start job.path) dir.names made fault)
      (hmade : made.node? k = some .directory) :
      files.node? k = some .directory ∨ StrictlyAbove k (files.place job.path) := by
    rcases h.node?_eq k with hsame | ⟨-, habove⟩
    · exact .inl (hsame ▸ hmade)
    · exact .inr (strictlyAbove_place hnames habove)
  rw [hafter] at hk
  cases hcourse with
  | unnamable => exact .inl hk
  | stopped _ making => exact hmaking making hk
  | drawn _ making chart =>
    cases chart with
    | undrawn => exact hmaking making hk
    | insufficient => exact hmaking making hk
    | unplaced => exact hmaking making hk
    | placed _ place =>
      have hne := ne_nil_of_node? (placeFault?_eq_none.mp place).2.2
      rw [node?_put hne] at hk
      split_ifs at hk with heq
      · cases hk
      · exact hmaking making hk

theorem isSome_content?_run (hc : files.Closed) (hp : job.path.Plain) (k : Location) :
    ((job.run files s catalog).1.content? k).isSome = true ↔
      (files.content? k).isSome = true ∨ (job.verdict files s catalog = .rendered ∧ k = files.place job.path) := by
  rw [← status_eq_verdict hc hp]
  obtain ⟨dir, last, after, status, -, hnames, hafter, hstatus, hcourse⟩ := course s catalog hc hp
  rw [hafter, hstatus]
  cases hcourse with
  | unnamable => simp
  | stopped _ making => simp [making.content? k]
  | drawn _ making chart =>
    cases chart with
    | undrawn => simp [making.content? k]
    | insufficient => simp [making.content? k]
    | unplaced => simp [making.content? k]
    | placed _ place =>
      have hne := ne_nil_of_node? (placeFault?_eq_none.mp place).2.2
      rw [content?_put hne, making.grows.place, ← making.content? k]
      split_ifs with hk <;> simp [hk]

end Job

end CommitCharts
