import CommitCharts.Proofs.Chart.Draw
import CommitCharts.Proofs.Plan.Frame
import CommitCharts.Proofs.Plan.Verdict

/-!
# CommitCharts.Proofs.Plan.Order — the order of jobs

If no chart is where another one needs a directory, no job changes what decides about the others.  So the order of the
jobs does not matter, and a job that fails does not make another one fail (`Plan.execute_perm`).
-/

namespace CommitCharts

open FileTree

variable {files : Files} {s : Series} {catalog : Catalog} {job : Job} {jobs : List Job}

/-- What the operating system accepts as a path: no NUL byte, less than 4096 bytes, and at most 255 in a name. -/
structure Path.Accepted (p : Path) : Prop where
  nul : '\x00' ∉ p.text.toList
  size : p.text.utf8ByteSize < 4096
  name : ∀ name ∈ p.names, name.utf8ByteSize ≤ 255

namespace FileTree

variable {α : Type} {t : FileTree α} {p dir : Path} {last : String}

theorem textFault?_eq_none :
    textFault? p = none ↔ '\x00' ∉ p.text.toList ∧ p.text ≠ "" ∧ p.text.utf8ByteSize < 4096 := by
  unfold textFault?
  split_ifs <;> simp_all

theorem textFaultAlong?_eq_none : textFaultAlong? p = none ↔ '\x00' ∉ p.text.toList ∧ p.text.utf8ByteSize < 4096 := by
  unfold textFaultAlong?
  split_ifs <;> simp_all

/-- A path that is accepted has a directory that is. -/
theorem textFaultAlong?_above (habove : dir.Above p) (h : p.Accepted) : textFaultAlong? dir = none := by
  obtain ⟨tail, htail⟩ := habove.text
  have hnul := h.nul
  have hsize := h.size
  rw [htail] at hnul hsize
  rw [String.toList_append, List.mem_append, not_or] at hnul
  rw [String.utf8ByteSize_append] at hsize
  exact textFaultAlong?_eq_none.mpr ⟨hnul.1, by omega⟩

end FileTree

namespace Job

theorem verdict_eq_rendered_iff :
    job.verdict files s catalog = .rendered ↔
      files.wayFault? job.path = none ∧ (∃ text, Chart.text? s catalog job.spec = .ok (some text)) ∧
        files.placeFault? job.path = none := by
  unfold verdict
  cases files.wayFault? job.path with
  | some fault => simp
  | none =>
    cases Chart.text? s catalog job.spec with
    | error e => simp
    | ok text? =>
      cases text? with
      | none => simp
      | some text => cases files.placeFault? job.path <;> simp

/-- Nothing keeps directories from being made along short names but a file strictly above the place of the chart. -/
theorem obstacle?_place {dir : Path} {last : String} (hc : files.Closed)
    (hnames : job.path.names = dir.names ++ [last]) :
    files.obstacle? (files.start job.path) dir.names = none ↔
      (∀ name ∈ dir.names, name.utf8ByteSize ≤ 255) ∧
        ∀ k, StrictlyAbove k (files.place job.path) → files.content? k = none := by
  rw [obstacle?_eq_none]
  refine and_congr_right fun _ => ⟨fun hfree k hk => ?_, fun hfree k _ hk => ?_⟩
  · have hplace : files.place job.path = files.start job.path ++ dir.names ++ [last] := by
      rw [place, hnames, List.append_assoc]
    obtain ⟨hpre, hne⟩ := hk
    rw [hplace] at hpre hne
    have habove : k <+: files.start job.path ++ dir.names := (List.prefix_concat_iff.mp hpre).resolve_left hne
    by_cases hstart : k <+: files.start job.path
    · exact content?_of_directory (hc.above (hc.start job.path) hstart)
    · obtain ⟨names, rfl⟩ := (List.prefix_or_prefix_of_prefix habove (List.prefix_append _ _)).resolve_left hstart
      have hnil : names ≠ [] := by
        rintro rfl
        simp at hstart
      exact hfree names hnil ((List.prefix_append_right_inj _).mp habove)
  · exact hfree _ (strictlyAbove_place hnames ((List.prefix_append_right_inj _).mpr hk))

/-- A chart is rendered if it can be drawn, its path is accepted, and neither a file above its place nor a directory in
its place is in the way. -/
theorem verdict_eq_rendered (hc : files.Closed) (hcommits : Chart.minCommits ≤ s.size) (hp : job.path.Plain) :
    job.verdict files s catalog = .rendered ↔
      job.spec.Known catalog ∧ job.path.Accepted ∧
        (∀ k, StrictlyAbove k (files.place job.path) → files.content? k = none) ∧
        files.node? (files.place job.path) ≠ some .directory := by
  obtain ⟨dir, last, hparent, habove, hnames⟩ := hp.parent
  rw [verdict_eq_rendered_iff, wayFault?_eq hparent, Option.or_eq_none_iff, obstacle?_place hc hnames,
    Chart.exists_text_iff hcommits, placeFault?_eq_none, textFault?_eq_none]
  constructor
  · rintro ⟨⟨-, -, hfree⟩, hknown, ⟨hnul, -, hsize⟩, hshort, hkind⟩
    exact ⟨hknown, ⟨hnul, hsize, hshort⟩, hfree, hkind⟩
  · rintro ⟨hknown, haccepted, hfree, hkind⟩
    have hshort : ∀ name ∈ dir.names, name.utf8ByteSize ≤ 255 := fun name hname =>
      haccepted.name name (by simp [hnames, hname])
    exact ⟨⟨textFaultAlong?_above habove haccepted, hshort, hfree⟩, hknown,
      ⟨haccepted.nul, hp.text, haccepted.size⟩, haccepted.name, hkind⟩

end Job

/-- No chart is where another one needs a directory. -/
def Apart (files : Files) (jobs : List Job) : Prop :=
  ∀ job ∈ jobs, ∀ other ∈ jobs, ¬ StrictlyAbove (files.place job.path) (files.place other.path)

instance (files : Files) (jobs : List Job) : Decidable (Apart files jobs) :=
  inferInstanceAs (Decidable (∀ job ∈ jobs, _))

namespace Plan

theorem directory_of_execute {k : Location} (hc : files.Closed) (hplain : ∀ job ∈ jobs, job.path.Plain)
    (hk : ((Plan.mk jobs).execute files s catalog).1.node? k = some .directory) :
    files.node? k = some .directory ∨ ∃ job ∈ jobs, StrictlyAbove k (files.place job.path) := by
  induction jobs using List.reverseRecOn with
  | nil => exact .inl hk
  | append_singleton jobs job ih =>
    rw [files_concat] at hk
    rcases Job.directory_of_run (execute_closed hc) (hplain job (by simp)) hk with hold | habove
    · refine (ih (fun job hjob => hplain job (List.mem_append_left _ hjob)) hold).imp_right ?_
      rintro ⟨job, hjob, habove⟩
      exact ⟨job, List.mem_append_left _ hjob, habove⟩
    · rw [(execute_grows (Plan.mk jobs)).place] at habove
      exact .inr ⟨job, by simp, habove⟩

/-- Charts that are apart are judged by the files there were before them all. -/
theorem execute_verdicts (s : Series) (catalog : Catalog) (hc : files.Closed)
    (hplain : ∀ job ∈ jobs, job.path.Plain) (hapart : Apart files jobs) :
    ((Plan.mk jobs).execute files s catalog).2.charts =
        jobs.map (fun job => ⟨job.path, job.destination, job.verdict files s catalog⟩) ∧
      ∀ k, (((Plan.mk jobs).execute files s catalog).1.content? k).isSome = true ↔
        (files.content? k).isSome = true ∨
          ∃ job ∈ jobs, job.verdict files s catalog = .rendered ∧ k = files.place job.path := by
  induction jobs using List.reverseRecOn with
  | nil => simp
  | append_singleton jobs job ih =>
    have hbefore (old : Job) (hold : old ∈ jobs) : old ∈ jobs ++ [job] := List.mem_append_left _ hold
    have hjob : job ∈ jobs ++ [job] := by simp
    obtain ⟨hcharts, hfiles⟩ := ih (fun old hold => hplain old (hbefore old hold))
      fun old hold other hother => hapart old (hbefore old hold) other (hbefore other hother)
    have hgrows : Grows files ((Plan.mk jobs).execute files s catalog).1 := execute_grows (Plan.mk jobs)
    -- the jobs before this one changed nothing that decides about it
    have hverdict : job.verdict ((Plan.mk jobs).execute files s catalog).1 s catalog = job.verdict files s catalog := by
      refine Job.verdict_congr (hplain job hjob) hgrows.working (fun k hk => ?_) ⟨fun hdir => ?_, hgrows.directory⟩
      · rw [Bool.eq_iff_iff, hfiles]
        refine or_iff_left ?_
        rintro ⟨old, hold, -, rfl⟩
        exact hapart old (hbefore old hold) job hjob hk
      · refine (directory_of_execute hc (fun old hold => hplain old (hbefore old hold)) hdir).resolve_right ?_
        rintro ⟨old, hold, habove⟩
        exact hapart job hjob old (hbefore old hold) habove
    constructor
    · rw [charts_concat, hcharts, Job.status_eq_verdict (execute_closed hc) (hplain job hjob), hverdict,
        List.map_append]
      rfl
    · intro k
      rw [files_concat, Job.isSome_content?_run (execute_closed hc) (hplain job hjob), hfiles, hverdict, hgrows.place]
      simp only [List.mem_append, List.mem_singleton, or_and_right, exists_or, exists_eq_left, or_assoc]

/-- **The order of charts does not matter**, if none is strictly above another: what becomes of each can be told from
the files there were at first, as if it were alone.  It is rendered if it can be drawn, its path is accepted, no file is
above its place and no directory in it. -/
theorem execute_perm (jobs : List Job) (files : Files) (s : Series) (catalog : Catalog) (hc : files.Closed)
    (hcommits : Chart.minCommits ≤ s.size) (hplain : ∀ job ∈ jobs, job.path.Plain) (hapart : Apart files jobs) :
    (∀ jobs', jobs'.Perm jobs →
      ((Plan.mk jobs').execute files s catalog).2.charts =
          jobs'.map (fun job => ⟨job.path, job.destination, Job.statusOf (job.run files s catalog).2⟩) ∧
        ∀ l, (((Plan.mk jobs').execute files s catalog).1.content? l).isSome =
          (((Plan.mk jobs).execute files s catalog).1.content? l).isSome) ∧
      ∀ job ∈ jobs, Job.statusOf (job.run files s catalog).2 = .rendered ↔
        job.spec.Known catalog ∧ job.path.Accepted ∧
          (∀ k, StrictlyAbove k (files.place job.path) → files.content? k = none) ∧
          files.node? (files.place job.path) ≠ some .directory := by
  refine ⟨fun jobs' hperm => ?_, fun job hjob => ?_⟩
  · obtain ⟨-, hfiles⟩ := execute_verdicts s catalog hc hplain hapart
    obtain ⟨hcharts', hfiles'⟩ := execute_verdicts s catalog hc
      (fun job hjob => hplain job (hperm.mem_iff.mp hjob))
      (fun job hjob other hother => hapart job (hperm.mem_iff.mp hjob) other (hperm.mem_iff.mp hother))
    constructor
    · rw [hcharts']
      refine List.map_congr_left fun job hjob => ?_
      rw [Job.status_eq_verdict hc (hplain job (hperm.mem_iff.mp hjob))]
    · intro l
      rw [Bool.eq_iff_iff, hfiles, hfiles']
      simp only [hperm.mem_iff]
  · rw [Job.status_eq_verdict hc (hplain job hjob)]
    exact Job.verdict_eq_rendered hc hcommits (hplain job hjob)

/-- Two charts in one directory, of which the second one cannot be drawn, and the first one once more. -/
def sideBySide : List Job :=
  [⟨.docs, .overview "Performance" .short ⟨1200, 600⟩, ⟨"charts/all.svg"⟩⟩,
    ⟨.docs, .trend 99 ⟨1000, 500⟩, ⟨"charts/none.svg"⟩⟩,
    ⟨.suite, .overview "Performance" .flattened ⟨1200, 600⟩, ⟨"charts/all.svg"⟩⟩]

/-- In an empty tree, where only the chart of an unknown test is not rendered, in whatever order. -/
theorem execute_perm_sideBySide :
    let files : Files := ⟨∅, []⟩
    let s : Series := { commits := ["new", "old"] }
    files.Closed ∧ Chart.minCommits ≤ s.size ∧ (∀ job ∈ sideBySide, job.path.Plain) ∧ Apart files sideBySide ∧
      ∀ jobs', jobs'.Perm sideBySide →
        ((Plan.mk jobs').execute files s Catalog.reference).2.charts =
          jobs'.map fun job => ⟨job.path, job.destination,
            Job.statusOf (job.run files s Catalog.reference).2⟩ := by
  have hcommits : Chart.minCommits ≤ ({ commits := ["new", "old"] } : Series).size := by decide
  have hplain : ∀ job ∈ sideBySide, job.path.Plain := by decide
  have hapart : Apart ⟨∅, []⟩ sideBySide := by decide
  refine ⟨closed_empty, hcommits, hplain, hapart, fun jobs' hperm => ?_⟩
  exact ((execute_perm sideBySide ⟨∅, []⟩ _ Catalog.reference closed_empty hcommits hplain hapart).1 jobs' hperm).1

/-- A chart with a name that is one byte too long. -/
def overlong : Job :=
  ⟨.docs, .overview "Performance" .short ⟨1200, 600⟩, ⟨String.ofList (List.replicate 256 'a')⟩⟩

theorem eq_of_mem_overlong {c : Char} (hc : c ∈ overlong.path.text.toList) : c = 'a' := by
  have htext : overlong.path.text.toList = List.replicate 256 'a' := String.toList_ofList
  exact List.eq_of_mem_replicate (htext ▸ hc)

theorem overlong_size : overlong.path.text.utf8ByteSize = 256 := by decide +kernel

theorem overlong_segments : overlong.path.segments = [overlong.path.text] :=
  Path.segments_of_slash_notMem fun h => absurd (eq_of_mem_overlong h) (by decide)

theorem overlong_plain : overlong.path.Plain := by
  have hne (name : String) (hname : name.utf8ByteSize ≠ 256) : overlong.path.text ≠ name := by
    rintro rfl
    exact hname overlong_size
  exact Path.plain_of_slash_notMem (fun h => absurd (eq_of_mem_overlong h) (by decide)) (hne _ (by decide))
    (hne _ (by decide)) (hne _ (by decide))

theorem overlong_names : overlong.path.names = [overlong.path.text] := by
  have hnoise := overlong_plain.isNoise_last [] overlong_segments
  rw [Path.names, overlong_segments, List.filter_singleton, hnoise]
  rfl

/-- The chart with the overlong name can be drawn, but no file can have its name. -/
theorem overlong_verdict (hcommits : Chart.minCommits ≤ s.size) :
    overlong.verdict files s catalog =
      .failed "plot render error: backend error: Drawing backend error: File name too long (os error 36)" := by
  obtain ⟨text, hdrawn⟩ := (Chart.exists_text_iff hcommits catalog overlong.spec).mpr trivial
  have hway : files.wayFault? overlong.path = none := by
    rw [wayFault?_eq (Path.parent?_singleton overlong_segments overlong_plain.text)]
    rfl
  have htext : textFault? overlong.path = none := by
    refine textFault?_eq_none.mpr ⟨fun h => absurd (eq_of_mem_overlong h) (by decide), overlong_plain.text, ?_⟩
    rw [overlong_size]
    decide
  have hplace : files.placeFault? overlong.path = some .nameTooLong := by
    rw [placeFault?, htext, overlong_names]
    simp [overlong_size]
  exact Job.verdict_unplaced hway hdrawn hplace

/-- Free ways and a chart that can be drawn are not enough: the chart with the overlong name fails in an empty tree. -/
theorem execute_overlong :
    let files : Files := ⟨∅, []⟩
    let s : Series := { commits := ["new", "old"] }
    let area := Chart.Area.below 52 overlong.spec.size
    (files.Closed ∧ Chart.minCommits ≤ s.size ∧ 100 ≤ area.width ∧ 100 ≤ area.height ∧ overlong.path.Plain ∧
        Apart files [overlong]) ∧
      (overlong.spec.Known Catalog.reference ∧
        (∀ k, StrictlyAbove k (files.place overlong.path) → files.content? k = none) ∧
        files.node? (files.place overlong.path) ≠ some .directory) ∧
      ((Plan.mk [overlong]).execute files s Catalog.reference).2.charts =
        [⟨overlong.path, .docs,
          .failed "plot render error: backend error: Drawing backend error: File name too long (os error 36)"⟩] := by
  intro files s area
  have hapart : Apart files [overlong] := by
    intro job hjob other hother
    rw [List.mem_singleton.mp hjob, List.mem_singleton.mp hother]
    exact fun h => h.2 rfl
  have hfree (k : Location) : files.content? k = none := by
    cases k <;> rfl
  have hdirectory : files.node? (files.place overlong.path) ≠ some .directory := by
    rw [place, overlong_names, node?_of_ne_nil (by simp)]
    intro h
    cases h
  obtain ⟨hcharts, -⟩ := execute_verdicts s Catalog.reference closed_empty
    (fun job hjob => List.mem_singleton.mp hjob ▸ overlong_plain) hapart
  refine ⟨⟨closed_empty, by decide, by decide, by decide, overlong_plain, hapart⟩,
    ⟨trivial, fun k _ => hfree k, hdirectory⟩, ?_⟩
  rw [hcharts, List.map_singleton, overlong_verdict (by decide)]
  rfl

end Plan

end CommitCharts
