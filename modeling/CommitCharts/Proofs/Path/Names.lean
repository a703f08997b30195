import CommitCharts.Proofs.Path
import Mathlib.Data.List.DropRight

/-!
# CommitCharts.Proofs.Path.Names — the names on a path

The segments of a path and its text determine each other.  A plain path has no dots and does not ask for a directory:
its names are those of the directory above it and one more (`Plain.parent`).
-/

namespace CommitCharts.Path

variable {p : Path} {segments : List String} {first segment : String}

/-! ### Segments and text -/

theorem split_eq_splitOn (cs : List Char) : split cs = cs.splitOn '/' := by
  induction cs with
  | nil => rfl
  | cons c cs ih =>
    rw [split, List.splitOn_cons_eq_if_modifyHead, ← ih]
    by_cases hc : c = '/'
    · rw [if_pos hc, if_pos (beq_iff_eq.mpr hc)]
    · rw [if_neg hc, if_neg (by simpa using hc)]
      cases hs : split cs with
      | nil => exact absurd hs (split_ne_nil cs)
      | cons s ss => rfl

theorem slash_notMem_of_mem_split {cs s : List Char} (h : s ∈ split cs) : '/' ∉ s := by
  induction cs generalizing s with
  | nil => simp_all [split]
  | cons c cs ih =>
    rw [split] at h
    split_ifs at h with hc
    · rcases List.mem_cons.mp h with rfl | h
      · exact List.not_mem_nil
      · exact ih h
    · cases hs : split cs with
      | nil => exact absurd hs (split_ne_nil cs)
      | cons s' ss =>
        rw [hs] at h ih
        rcases List.mem_cons.mp h with rfl | h
        · simpa [Ne.symm hc] using ih (List.mem_cons_self ..)
        · exact ih (List.mem_cons_of_mem _ h)

theorem segments_ne_nil (p : Path) : p.segments ≠ [] := by
  simp [Path.segments, split_ne_nil]

theorem intercalate_segments (p : Path) : "/".intercalate p.segments = p.text := by
  have hmap : String.toList ∘ String.ofList = id := funext fun cs => String.toList_ofList
  rw [← String.toList_inj, String.toList_intercalate, Path.segments, List.map_map, hmap, List.map_id, split_eq_splitOn]
  exact List.intercalate_splitOn '/'

theorem slash_notMem_of_mem_segments (h : segment ∈ p.segments) : '/' ∉ segment.toList := by
  obtain ⟨cs, hcs, rfl⟩ := List.mem_map.mp h
  rw [String.toList_ofList]
  exact slash_notMem_of_mem_split hcs

theorem segments_intercalate (hne : segments ≠ []) (h : ∀ segment ∈ segments, '/' ∉ segment.toList) :
    (Path.mk ("/".intercalate segments)).segments = segments := by
  have hsplit : (['/'].intercalate (segments.map String.toList)).splitOn '/' = segments.map String.toList :=
    List.splitOn_intercalate '/' (by simpa using h) (by simpa using hne)
  have hmap : String.ofList ∘ String.toList = id := funext fun s => String.ofList_toList
  have htext : ("/".intercalate segments).toList = ['/'].intercalate (segments.map String.toList) :=
    String.toList_intercalate
  rw [Path.segments, split_eq_splitOn, htext, hsplit, List.map_map, hmap, List.map_id]

/-- A text without a slash is the only segment of its path. -/
theorem segments_of_slash_notMem (h : '/' ∉ p.text.toList) : p.segments = [p.text] := by
  have hsegments := segments_intercalate (List.cons_ne_nil p.text []) (by simpa using h)
  rwa [String.intercalate_singleton] at hsegments

theorem isAbsolute_iff {rest : List String} (h : p.segments = first :: rest) :
    p.isAbsolute = true ↔ first = "" ∧ rest ≠ [] := by
  unfold Path.segments at h
  unfold isAbsolute
  cases hp : p.text.toList with
  | nil =>
    rw [hp] at h
    obtain ⟨-, rfl⟩ := List.cons.inj h
    simp
  | cons c cs =>
    rw [hp, split] at h
    split_ifs at h with hc
    · obtain ⟨rfl, rfl⟩ := List.cons.inj h
      simp [hc, split_ne_nil]
    · cases hs : split cs with
      | nil => exact absurd hs (split_ne_nil cs)
      | cons s ss =>
        rw [hs] at h
        obtain ⟨rfl, rfl⟩ := List.cons.inj h
        simp [hc]

/-! ### Names -/

/-- The segments that are components, first ones included. -/
def names (p : Path) : List String := p.segments.filter (!isNoise ·)

theorem dropNoise_eq (segments : List String) : dropNoise segments = segments.rdropWhile isNoise := rfl

theorem dropNoise_prefix (segments : List String) : dropNoise segments <+: segments :=
  List.rdropWhile_prefix isNoise segments

theorem filter_dropNoise (segments : List String) :
    (dropNoise segments).filter (!isNoise ·) = segments.filter (!isNoise ·) := by
  rw [dropNoise_eq]
  induction segments using List.reverseRecOn with
  | nil => rfl
  | append_singleton segments segment ih =>
    cases hnoise : isNoise segment with
    | true =>
      rw [List.rdropWhile_concat_pos isNoise _ _ hnoise, ih, List.filter_append]
      simp [hnoise]
    | false => rw [List.rdropWhile_concat_neg isNoise _ _ (by simp [hnoise])]

/-- There are no dots on the path, and it does not ask for a directory. -/
structure Plain (p : Path) : Prop where
  text : p.text ≠ ""
  slash : p.endsInSlash = false
  dot : "." ∉ p.segments
  up : ".." ∉ p.segments

instance (p : Path) : Decidable p.Plain :=
  decidable_of_iff (p.text ≠ "" ∧ p.endsInSlash = false ∧ "." ∉ p.segments ∧ ".." ∉ p.segments)
    ⟨fun ⟨text, slash, dot, up⟩ => ⟨text, slash, dot, up⟩, fun h => ⟨h.text, h.slash, h.dot, h.up⟩⟩

/-- A name by itself is a plain path. -/
theorem plain_of_slash_notMem (h : '/' ∉ p.text.toList) (hempty : p.text ≠ "") (hdot : p.text ≠ ".")
    (hup : p.text ≠ "..") : p.Plain where
  text := hempty
  slash := by
    rw [endsInSlash, beq_eq_false_iff_ne]
    exact fun hlast => h (List.mem_of_getLast? hlast)
  dot := by rw [segments_of_slash_notMem h]; simpa using hdot.symm
  up := by rw [segments_of_slash_notMem h]; simpa using hup.symm

/-- The directory of a path: it starts from the same place, and its text is where that of the path starts. -/
structure Above (dir p : Path) : Prop where
  absolute : dir.isAbsolute = p.isAbsolute
  text : ∃ tail, p.text = dir.text ++ tail

/-- The first segments of a path are those of a directory above it, unless only the root is left of them. -/
theorem above_of_prefix {dir : Path} {kept rest : List String} (hp : p.segments = first :: rest)
    (hdir : dir.segments = first :: kept) (hpre : kept <+: rest) (hroot : p.isAbsolute = true → kept ≠ []) :
    dir.Above p := by
  obtain ⟨tail, rfl⟩ := hpre
  constructor
  · rw [Bool.eq_iff_iff, isAbsolute_iff hdir]
    refine ⟨fun h => (isAbsolute_iff hp).mpr ⟨h.1, by simp [h.2]⟩, fun h => ⟨((isAbsolute_iff hp).mp h).1, hroot h⟩⟩
  · rw [← intercalate_segments p, ← intercalate_segments dir, hp, hdir, ← List.cons_append]
    by_cases htail : tail = []
    · exact ⟨"", by simp [htail]⟩
    · rw [String.intercalate_append_of_ne_nil (by simp) htail, String.append_assoc]
      exact ⟨_, rfl⟩

theorem parent?_singleton (h : p.segments = [first]) (hfirst : first ≠ "") : p.parent? = some ⟨""⟩ := by
  simp [parent?, h, dropNoise, hfirst]

/-- The parent of a path whose last component is not its first segment. -/
theorem parent?_of_dropNoise {rest before : List String} {last : String} (h : p.segments = first :: rest)
    (hrest : dropNoise rest = before ++ [last]) :
    p.parent? = if p.isAbsolute && (dropNoise before).isEmpty then some ⟨"/"⟩
      else some ⟨"/".intercalate (first :: dropNoise before)⟩ := by
  unfold parent?
  rw [h]
  dsimp only
  rw [hrest, List.reverse_concat]
  dsimp only
  rw [List.reverse_reverse]

theorem parent?_concat {before : List String} {last : String} (h : p.segments = first :: (before ++ [last]))
    (hlast : isNoise last = false) :
    p.parent? = if p.isAbsolute && (dropNoise before).isEmpty then some ⟨"/"⟩
      else some ⟨"/".intercalate (first :: dropNoise before)⟩ := by
  have hkept : dropNoise (before ++ [last]) = before ++ [last] := by
    rw [dropNoise_eq, List.rdropWhile_concat_neg isNoise _ _ (by simp [hlast])]
  exact parent?_of_dropNoise h hkept

namespace Plain

theorem isNoise_last (h : p.Plain) (before : List String) {last : String} (hsegments : p.segments = before ++ [last]) :
    isNoise last = false := by
  have hempty := getLast?_segments_ne h.slash h.text
  have hdot := h.dot
  rw [hsegments] at hempty hdot
  have hlast : last ≠ "" := by simpa using hempty
  have hlast' : last ≠ "." := by
    rintro rfl
    simp at hdot
  simp [isNoise, hlast, hlast']

/-- The directory of a plain path has all its names but the last one. -/
theorem parent (h : p.Plain) :
    ∃ dir last, p.parent? = some dir ∧ dir.Above p ∧ p.names = dir.names ++ [last] := by
  obtain ⟨first, rest, hp⟩ := List.exists_cons_of_ne_nil (segments_ne_nil p)
  rcases List.eq_nil_or_concat' rest with rfl | ⟨before, last, rfl⟩
  · -- one name: the directory is where the path starts
    have hfirst : isNoise first = false := h.isNoise_last [] hp
    have hne : first ≠ "" := by
      rintro rfl
      cases hfirst
    have habsolute : p.isAbsolute = false := by
      rw [← Bool.not_eq_true, isAbsolute_iff hp]
      simp
    refine ⟨⟨""⟩, first, parent?_singleton hp hne, ⟨habsolute.symm, p.text, String.empty_append.symm⟩, ?_⟩
    rw [names, hp, List.filter_cons_of_pos (by simp [hfirst])]
    rfl
  · have hlast : isNoise last = false := h.isNoise_last (first :: before) hp
    have hnames : p.names = (first :: dropNoise before).filter (!isNoise ·) ++ [last] := by
      have hfilter : (first :: before).filter (!isNoise ·) = (first :: dropNoise before).filter (!isNoise ·) := by
        rw [List.filter_cons, List.filter_cons, filter_dropNoise]
      have hkeep : [last].filter (!isNoise ·) = [last] := by rw [List.filter_singleton, hlast]; rfl
      rw [names, hp, ← List.cons_append, List.filter_append, hfilter, hkeep]
    rw [parent?_concat hp hlast]
    split_ifs with hroot
    · -- only slashes before the last name
      obtain ⟨habsolute, hempty⟩ := Bool.and_eq_true_iff.mp hroot
      obtain ⟨rfl, -⟩ := (isAbsolute_iff hp).mp habsolute
      refine ⟨⟨"/"⟩, last, rfl, ⟨habsolute.symm, ?_⟩, ?_⟩
      · rw [← intercalate_segments p, hp, String.intercalate_cons_of_ne_nil (by simp), String.empty_append]
        exact ⟨_, rfl⟩
      · rw [hnames, List.isEmpty_iff.mp hempty]
        rfl
    · have hpre := dropNoise_prefix before
      have hdir : (Path.mk ("/".intercalate (first :: dropNoise before))).segments = first :: dropNoise before := by
        have hkept : first :: dropNoise before <+: p.segments := by
          rw [hp, List.prefix_cons_inj]
          exact hpre.trans (List.prefix_append _ _)
        exact segments_intercalate (by simp) fun segment hsegment =>
          slash_notMem_of_mem_segments (hkept.subset hsegment)
      have habove := above_of_prefix hp hdir (hpre.trans (List.prefix_append _ _)) fun habsolute hnil =>
        hroot (by rw [habsolute, hnil]; rfl)
      exact ⟨_, last, rfl, habove, by rw [hnames, names, hdir]⟩

end Plain

end CommitCharts.Path
