import CommitCharts.Proofs.Path.Join
import CommitCharts.Proofs.Path.Names

/-!
# CommitCharts.Proofs.Path.Components — the components of a path

The components of a path are its segments but for empty ones and for dots behind the first segment.  The parent of a
path has its components but for the last one (`components_parent`), and joining puts components behind those of the left
side (`components_join`).  Two paths with the same components from the same start differ in slashes and dots only.  A
path lies in a directory if its parent is that directory in this sense (`liesIn_iff`).
-/

namespace CommitCharts.Path

variable {p q : Path} {first : String} {rest : List String}

/-- The first segment counts unless it is empty; of the others, those count that are no noise. -/
def components (p : Path) : List String :=
  match p.segments with
  | [] => []
  | first :: rest => [first].filter (!·.isEmpty) ++ rest.filter (!isNoise ·)

/-- The last component. -/
def name? (p : Path) : Option String := p.components.getLast?

/-- Two paths start at the same place and have the same components. -/
structure Same (p q : Path) : Prop where
  absolute : p.isAbsolute = q.isAbsolute
  components : p.components = q.components

/-- The path has the name as its last component, and the directory as its parent. -/
structure LiesIn (p dir : Path) (name : String) : Prop where
  name : p.name? = some name
  parent : ∃ q, p.parent? = some q ∧ q.Same dir

theorem isNoise_eq_false_iff {segment : String} : isNoise segment = false ↔ segment ≠ "" ∧ segment ≠ "." := by
  simp [isNoise]

theorem components_eq (h : p.segments = first :: rest) :
    p.components = [first].filter (!·.isEmpty) ++ rest.filter (!isNoise ·) := by
  unfold components
  rw [h]

theorem filter_first (h : first ≠ "") : [first].filter (!·.isEmpty) = [first] :=
  List.filter_eq_self.mpr (by simpa using h)

theorem components_subset_segments (p : Path) : p.components ⊆ p.segments := by
  obtain ⟨first, rest, h⟩ := List.exists_cons_of_ne_nil (segments_ne_nil p)
  rw [components_eq h, h]
  intro segment hsegment
  rcases List.mem_append.1 hsegment with h | h
  · rw [List.mem_singleton.1 (List.mem_of_mem_filter h)]
    exact List.mem_cons_self ..
  · exact List.mem_cons_of_mem _ (List.mem_of_mem_filter h)

/-- Segments behind those of a path add the components among them. -/
theorem components_append {tail : List String} (h : q.segments = p.segments ++ tail) :
    q.components = p.components ++ tail.filter (!isNoise ·) := by
  obtain ⟨first, rest, hp⟩ := List.exists_cons_of_ne_nil (segments_ne_nil p)
  rw [hp, List.cons_append] at h
  rw [components_eq h, components_eq hp, List.filter_append, List.append_assoc]

/-! ### The parent -/

/-- Without the noise at its end, a list is empty or ends in a segment that counts. -/
theorem dropNoise_cases (segments : List String) :
    dropNoise segments = [] ∨ ∃ before last, dropNoise segments = before ++ [last] ∧ isNoise last = false := by
  induction segments using List.reverseRecOn with
  | nil => exact .inl rfl
  | append_singleton before last ih =>
    cases hlast : isNoise last with
    | true =>
      rw [dropNoise_eq, List.rdropWhile_concat_pos isNoise _ _ hlast]
      exact ih
    | false =>
      rw [dropNoise_eq, List.rdropWhile_concat_neg isNoise _ _ (by simp [hlast])]
      exact .inr ⟨before, last, rfl, hlast⟩

/-- The segments before the last component are segments of the path. -/
theorem slash_notMem_of_dropNoise {before : List String} {last segment : String} (hp : p.segments = first :: rest)
    (hrest : dropNoise rest = before ++ [last]) (h : segment ∈ first :: dropNoise before) : '/' ∉ segment.toList := by
  refine slash_notMem_of_mem_segments (p := p) ?_
  rw [hp]
  have hkept : dropNoise rest ⊆ rest := List.IsPrefix.subset <| dropNoise_prefix rest
  have hbefore : dropNoise before ⊆ before := List.IsPrefix.subset <| dropNoise_prefix before
  rw [hrest] at hkept
  exact List.cons_subset_cons first (List.Subset.trans hbefore (List.append_subset.mp hkept).1) h

/-- **The parent of a path** starts at the same place and has its components but for the last one. -/
theorem components_parent (h : p.components ≠ []) :
    ∃ dir, p.parent? = some dir ∧ dir.isAbsolute = p.isAbsolute ∧ dir.components = p.components.dropLast := by
  obtain ⟨first, rest, hp⟩ := List.exists_cons_of_ne_nil (segments_ne_nil p)
  rw [components_eq hp, ← filter_dropNoise rest] at h ⊢
  rcases dropNoise_cases rest with hrest | ⟨before, last, hrest, hlast⟩
  · -- one component, the first segment
    have hfirst : first ≠ "" := by
      rintro rfl
      exact h (by rw [hrest]; rfl)
    have hrelative : p.isAbsolute = false := by
      rw [← Bool.not_eq_true, isAbsolute_iff hp]
      exact fun habsolute => hfirst habsolute.1
    have hparent : p.parent? = some ⟨""⟩ := by
      unfold parent?
      rw [hp]
      dsimp only
      rw [hrest, List.reverse_nil]
      dsimp only
      rw [if_neg (by simpa using hfirst)]
    refine ⟨⟨""⟩, hparent, hrelative.symm, ?_⟩
    rw [hrest, List.filter_nil, List.append_nil, filter_first hfirst]
    rfl
  · have hdropLast : ([first].filter (!·.isEmpty) ++ (dropNoise rest).filter (!isNoise ·)).dropLast =
        [first].filter (!·.isEmpty) ++ (dropNoise before).filter (!isNoise ·) := by
      have hkeep : [last].filter (!isNoise ·) = [last] := by rw [List.filter_singleton, hlast]; rfl
      rw [hrest, List.filter_append, hkeep, ← List.append_assoc, List.dropLast_concat, filter_dropNoise]
    have hne : rest ≠ [] := by
      rintro rfl
      simp [dropNoise] at hrest
    rw [hdropLast, parent?_of_dropNoise hp hrest]
    split_ifs with hroot
    · -- only slashes before the last component
      obtain ⟨habsolute, hempty⟩ := Bool.and_eq_true_iff.mp hroot
      rw [((isAbsolute_iff hp).mp habsolute).1, List.isEmpty_iff.mp hempty, habsolute]
      exact ⟨⟨"/"⟩, rfl, rfl, rfl⟩
    · have hsegments := segments_intercalate (List.cons_ne_nil first (dropNoise before)) fun _ =>
        slash_notMem_of_dropNoise hp hrest
      refine ⟨_, rfl, ?_, components_eq hsegments⟩
      rw [Bool.eq_iff_iff, isAbsolute_iff hsegments, isAbsolute_iff hp]
      refine and_congr_right fun hfirst => iff_of_true (fun hkept => hroot ?_) hne
      rw [hkept, (isAbsolute_iff hp).mpr ⟨hfirst, hne⟩]
      rfl

/-- **A path lies in a directory** if it adds one component to those of the directory. -/
theorem liesIn_iff {dir : Path} {name : String} :
    p.LiesIn dir name ↔ p.isAbsolute = dir.isAbsolute ∧ p.components = dir.components ++ [name] := by
  constructor
  · rintro ⟨hname, q, hq, hsame⟩
    obtain ⟨before, hbefore⟩ := List.getLast?_eq_some_iff.mp hname
    obtain ⟨q', hq', habsolute, hcomponents⟩ := components_parent (p := p) (by simp [hbefore])
    obtain rfl : q = q' := Option.some_inj.mp (hq.symm.trans hq')
    rw [hbefore, List.dropLast_concat, hsame.components] at hcomponents
    exact ⟨habsolute.symm.trans hsame.absolute, by rw [hbefore, hcomponents]⟩
  · rintro ⟨habsolute, hcomponents⟩
    obtain ⟨q, hq, hstart, hbefore⟩ := components_parent (p := p) (by simp [hcomponents])
    rw [hcomponents, List.dropLast_concat] at hbefore
    exact ⟨by rw [name?, hcomponents, List.getLast?_concat], q, hq, hstart.trans habsolute, hbefore⟩

instance (p dir : Path) (name : String) : Decidable (p.LiesIn dir name) := decidable_of_iff' _ liesIn_iff

/-! ### Joined paths -/

theorem split_append_slash (cs ds : List Char) : split (cs ++ '/' :: ds) = split cs ++ split ds := by
  induction cs with
  | nil => simp [split]
  | cons c cs ih =>
    rw [List.cons_append, split, split, ih]
    split_ifs with hc
    · rfl
    · cases hs : split cs with
      | nil => exact absurd hs (split_ne_nil cs)
      | cons s ss => rfl

theorem segments_append_slash (a b : String) :
    (Path.mk (a ++ "/" ++ b)).segments = (Path.mk a).segments ++ (Path.mk b).segments := by
  unfold segments
  rw [← List.map_append, ← split_append_slash]
  simp

/-- A path that ends in a slash is one without the slash, to which it adds an empty segment. -/
theorem exists_of_endsInSlash (h : p.endsInSlash = true) : ∃ a, p.text = a ++ "/" := by
  obtain ⟨cs, hcs⟩ := List.getLast?_eq_some_iff.mp (beq_iff_eq.mp h)
  exact ⟨String.ofList cs, String.toList_inj.mp (by simpa using hcs)⟩

/-- A path that starts with neither a slash nor a dot starts with a name. -/
theorem exists_first {c : Char} (h : p.text.toList.head? = some c) (hslash : c ≠ '/') (hdot : c ≠ '.') :
    ∃ first rest, p.segments = first :: rest ∧ isNoise first = false := by
  obtain ⟨cs, hcs⟩ := List.head?_eq_some_iff.mp h
  obtain ⟨s, ss, hsplit⟩ := List.exists_cons_of_ne_nil (split_ne_nil cs)
  refine ⟨String.ofList (c :: s), ss.map String.ofList, ?_, ?_⟩
  · rw [segments, hcs, split, if_neg hslash, hsplit]
    rfl
  · rw [isNoise_eq_false_iff]
    constructor
    · refine ne_of_apply_ne String.toList ?_
      rw [String.toList_ofList]
      exact List.cons_ne_nil c s
    · refine ne_of_apply_ne String.toList ?_
      rw [String.toList_ofList]
      exact fun h => hdot (List.cons.inj h).1

/-- A path that is not empty leads a joined one with a slash behind a text that has its components. -/
theorem exists_lead (h : p.text ≠ "") : ∃ a, p.lead = a ++ "/" ∧ p.components = (Path.mk a).components := by
  cases hslash : p.endsInSlash with
  | true =>
    obtain ⟨a, ha⟩ := exists_of_endsInSlash hslash
    have hsegments : p.segments = (Path.mk a).segments ++ [""] := by
      have happend := segments_append_slash a ""
      rw [String.append_empty, ← ha] at happend
      exact happend
    refine ⟨a, (lead_of_endsInSlash hslash).trans ha, ?_⟩
    rw [components_append hsegments]
    simp [isNoise]
  | false =>
    refine ⟨p.text, ?_, rfl⟩
    unfold lead
    simp [h, hslash]

/-- **Joining** puts the components of a path that starts with a name behind those of the left side. -/
theorem components_join (p : Path) (hq : q.segments = first :: rest) (hfirst : isNoise first = false) :
    (p.join q).isAbsolute = p.isAbsolute ∧ (p.join q).components = p.components ++ q.components := by
  have hne : first ≠ "" := by
    rintro rfl
    cases hfirst
  have hrelative : q.isAbsolute = false := by
    rw [← Bool.not_eq_true, isAbsolute_iff hq]
    exact fun habsolute => hne habsolute.1
  have hcomponents : q.components = q.segments.filter (!isNoise ·) := by
    rw [components_eq hq, hq, filter_first hne, List.filter_cons_of_pos (by simp [hfirst])]
    rfl
  refine ⟨by rw [isAbsolute_join, hrelative, Bool.or_false], ?_⟩
  rw [join_relative p hrelative]
  by_cases hempty : p.text = ""
  · obtain rfl : p = ⟨""⟩ := congrArg Path.mk hempty
    rw [lead_empty, String.empty_append]
    rfl
  · obtain ⟨a, hlead, hleft⟩ := exists_lead hempty
    rw [hlead, hleft, hcomponents]
    exact components_append (segments_append_slash a q.text)

end CommitCharts.Path
