import CommitCharts.Chart.Draw
import CommitCharts.Proofs.Axis

/-!
# CommitCharts.Proofs.Chart.Draw — when there is a drawing

The ranges of an axis can always carry a chart, so that what is checked beforehand is all that can fail
(`exists_draw`).  With commits enough only a trend of an unknown test is not drawn (`exists_text_iff`), a chart goes the
same way in memory and into a file (`render_eq`), and all its bars and points fit into its range (`marks_fit`).
-/

namespace CommitCharts.Chart

variable {s : Series} {catalog : Catalog} {spec : Spec}

/-- The chart is an overview, or the trend of a test of the catalog. -/
def Spec.Known (catalog : Catalog) : Spec → Prop
  | .overview .. => True
  | .trend id _ => id ∈ catalog.ids

theorem checkRange_of_isProper {r : Axis.Range} (h : r.isProper = true) : checkRange r = .ok () := if_pos h

theorem checkSpec_eq_ok_iff : checkSpec catalog spec = .ok () ↔ spec.Known catalog := by
  cases spec with
  | overview title legend size => exact iff_of_true rfl trivial
  | trend id size => simp [checkSpec, Spec.Known, Catalog.contains_iff]

theorem checkSpec_of_not_known (h : ¬ spec.Known catalog) :
    ∃ id, checkSpec catalog spec = .error (.unknownTest id) := by
  cases spec with
  | overview title legend size => exact absurd trivial h
  | trend id size => exact ⟨id, by simp [checkSpec, Catalog.contains_iff.not.mpr h]⟩

/-- What is checked beforehand is all that can fail: the test is found again, and its range is proper. -/
theorem exists_draw (s : Series) (h : spec.Known catalog) : ∃ d, draw s catalog spec = .ok d := by
  cases spec with
  | overview title legend size =>
    unfold draw
    rw [checkRange_of_isProper (r := Overview.range s catalog) (Axis.isProper_overview _)]
    exact ⟨_, rfl⟩
  | trend id size =>
    have hfound : (catalog.get? id).isSome = true := by
      rw [Catalog.get?_isSome, Catalog.contains_iff]
      exact h
    obtain ⟨test, htest⟩ := Option.isSome_iff_exists.mp hfound
    unfold draw
    dsimp only
    rw [htest]
    dsimp only
    rw [checkRange_of_isProper (r := Trend.range s test) (Axis.isProper_trend _)]
    exact ⟨_, rfl⟩

/-- What drawing comes to: nothing with too few commits, and otherwise the chart, unless it is a trend of a test that
the catalog does not have. -/
theorem draw?_cases (s : Series) (catalog : Catalog) (spec : Spec) :
    (s.size < minCommits ∧ draw? s catalog spec = .ok none) ∨
    (minCommits ≤ s.size ∧ spec.Known catalog ∧ ∃ d, draw? s catalog spec = .ok (some d)) ∨
    (minCommits ≤ s.size ∧ ¬ spec.Known catalog ∧ ∃ id, draw? s catalog spec = .error (.unknownTest id)) := by
  unfold draw?
  split_ifs with hfew
  · exact .inl ⟨hfew, rfl⟩
  · have hcommits : minCommits ≤ s.size := Nat.not_lt.mp hfew
    by_cases hknown : spec.Known catalog
    · obtain ⟨d, hdraw⟩ := exists_draw s hknown
      rw [checkSpec_eq_ok_iff.mpr hknown, hdraw]
      exact .inr (.inl ⟨hcommits, hknown, d, rfl⟩)
    · obtain ⟨id, hcheck⟩ := checkSpec_of_not_known hknown
      rw [hcheck]
      exact .inr (.inr ⟨hcommits, hknown, id, rfl⟩)

theorem text?_of_few (h : s.size < minCommits) (catalog : Catalog) (spec : Spec) : text? s catalog spec = .ok none := by
  unfold text? draw?
  rw [if_pos h]
  rfl

/-- **A chart goes the same way in memory and into a file**: it is not drawn for the same reasons, and the file gets the
text. -/
theorem render_eq (files : Files) (s : Series) (catalog : Catalog) (spec : Spec) (path : Path) :
    render files s catalog spec path =
      match text? s catalog spec with
      | .error e => (files, .error e)
      | .ok none => (files, .ok (.insufficient s.size))
      | .ok (some text) =>
        match files.write path (.ofText text) with
        | .ok files => (files, .ok (.rendered path))
        | .error fault => (files, .error (unwritten fault)) := by
  unfold render
  by_cases hfew : s.size < minCommits
  · rw [if_pos hfew, text?_of_few hfew]
  rw [if_neg hfew]
  by_cases hknown : spec.Known catalog
  · obtain ⟨d, hdraw⟩ := exists_draw s hknown
    have htext : text? s catalog spec = .ok (some d.render) := by
      unfold text? draw?
      rw [if_neg hfew, checkSpec_eq_ok_iff.mpr hknown, hdraw]
      rfl
    rw [checkSpec_eq_ok_iff.mpr hknown, htext]
    dsimp only
    rw [hdraw]
    dsimp only
    unfold save
    cases files.write path (.ofText d.render) <;> rfl
  · obtain ⟨id, hcheck⟩ := checkSpec_of_not_known hknown
    have htext : text? s catalog spec = .error (.unknownTest id) := by
      unfold text? draw?
      rw [if_neg hfew, hcheck]
      rfl
    rw [hcheck, htext]

theorem exists_text_iff (hcommits : minCommits ≤ s.size) (catalog : Catalog) (spec : Spec) :
    (∃ text, text? s catalog spec = .ok (some text)) ↔ spec.Known catalog := by
  unfold text?
  obtain ⟨hfew, -⟩ | ⟨-, hknown, d, hdraw⟩ | ⟨-, hunknown, id, hdraw⟩ := draw?_cases s catalog spec
  · exact absurd hfew (Nat.not_lt.mpr hcommits)
  · rw [hdraw]
    exact iff_of_true ⟨_, rfl⟩ hknown
  · rw [hdraw]
    exact iff_of_false nofun hunknown

/-- No chart fails for its range. -/
theorem draw?_ne_axisRange (s : Series) (catalog : Catalog) (spec : Spec) (lo hi : Float) :
    draw? s catalog spec ≠ .error (.axisRange lo hi) := by
  obtain ⟨-, hdraw⟩ | ⟨-, -, d, hdraw⟩ | ⟨-, -, id, hdraw⟩ := draw?_cases s catalog spec
  · rw [hdraw]
    nofun
  · rw [hdraw]
    nofun
  · rw [hdraw]
    nofun

/-- Every bar goes from zero up to a value of its test. -/
theorem exists_of_mem_bars {i : Nat} {t : Test} {b : Overview.Bar} (hb : b ∈ Overview.bars s catalog i t) :
    ∃ v ∈ s.values t.id, b.value = v.toFloat := by
  obtain ⟨⟨v, j⟩, hv, rfl⟩ := List.mem_map.mp hb
  exact ⟨v, List.fst_mem_of_mem_zipIdx hv, rfl⟩

theorem exists_of_mem_points {t : Test} {p : Float × Float} (hp : p ∈ Trend.points s t) :
    ∃ v ∈ s.values t.id, p.2 = v.toFloat := by
  obtain ⟨⟨v, j⟩, hv, rfl⟩ := List.mem_map.mp hp
  exact ⟨v, List.fst_mem_of_mem_zipIdx hv, rfl⟩

/-- **All marks fit into their chart**: the ends of both ranges of any values are finite and apart from each other, so
that no chart fails for its range, and every value lies between them, also where it is rounded.  So the range of the
overview has both ends of each of its bars, and that of a trend each of its points. -/
theorem marks_fit :
    (∀ values : List UInt64,
      (∀ r ∈ [Axis.overview values, Axis.trend values],
        r.lo.isFinite = true ∧ r.hi.isFinite = true ∧ r.lo < r.hi ∧ checkRange r = .ok ()) ∧
      ∀ v ∈ values,
        ((Axis.trend values).lo ≤ v.toFloat ∧ v.toFloat ≤ (Axis.trend values).hi) ∧
        0 ≤ v.toFloat ∧ v.toFloat ≤ (Axis.overview values).hi) ∧
    ∀ (s : Series) (catalog : Catalog),
      (∀ t ∈ catalog.tests.zipIdx, ∀ b ∈ Overview.bars s catalog t.2 t.1,
        (Overview.range s catalog).Contains 0 ∧ (Overview.range s catalog).Contains b.value) ∧
      (∀ t, ∀ p ∈ Trend.points s t, (Trend.range s t).Contains p.2) ∧
      ∀ spec lo hi, draw? s catalog spec ≠ .error (.axisRange lo hi) := by
  have hproper {r : Axis.Range} (h : r.isProper = true) :
      r.lo.isFinite = true ∧ r.hi.isFinite = true ∧ r.lo < r.hi ∧ checkRange r = .ok () := by
    obtain ⟨hlo, hhi, hlt⟩ := Axis.isProper_iff.mp h
    exact ⟨hlo, hhi, hlt, checkRange_of_isProper h⟩
  refine ⟨fun values => ⟨fun r hr => ?_, fun v hv => ?_⟩, fun s catalog => ⟨fun t ht b hb => ?_, fun t p hp => ?_, ?_⟩⟩
  · rcases List.mem_pair.mp hr with rfl | rfl
    · exact hproper (Axis.isProper_overview values)
    · exact hproper (Axis.isProper_trend values)
  · exact ⟨Axis.trend_contains hv, Axis.toFloat_nonneg v, (Axis.overview_contains hv).2⟩
  · obtain ⟨v, hv, hvalue⟩ := exists_of_mem_bars hb
    have hid : t.1.id ∈ catalog.ids := List.mem_map_of_mem (List.fst_mem_of_mem_zipIdx ht)
    rw [hvalue]
    exact ⟨Axis.overview_contains_zero _, Axis.overview_contains (List.mem_flatMap.mpr ⟨t.1.id, hid, hv⟩)⟩
  · obtain ⟨v, hv, hvalue⟩ := exists_of_mem_points hp
    rw [hvalue]
    exact Axis.trend_contains hv
  · exact draw?_ne_axisRange s catalog

end CommitCharts.Chart
