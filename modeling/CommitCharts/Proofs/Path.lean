import CommitCharts.Path
import Mathlib.Data.List.TakeWhile
import Mathlib.Tactic.SplitIfs

/-!
# CommitCharts.Proofs.Path — the ends of paths

A path that does not end in a slash has nothing to drop at its end, and its last segment is not empty.  What a joined
path ends in is what its right side ends in.
-/

namespace CommitCharts.Path

variable {p q : Path}

theorem dropSlashes_of_not_endsInSlash (h : p.endsInSlash = false) : p.dropSlashes = p := by
  have hchars : (p.text.toList.reverse.dropWhile (· == '/')).reverse = p.text.toList := by
    cases hr : p.text.toList.reverse with
    | nil => exact (List.reverse_eq_nil_iff.mp hr).symm
    | cons c cs =>
      have hc : (c == '/') = false := by
        rw [endsInSlash, ← List.head?_reverse, hr] at h
        simpa using h
      rw [List.dropWhile_cons_of_neg (by simp [hc]), ← hr, List.reverse_reverse]
  have hroot : (p.text.toList.isEmpty && p.isAbsolute) = false := by
    unfold isAbsolute
    cases p.text.toList <;> rfl
  unfold dropSlashes
  simp only [hchars, hroot, Bool.false_eq_true, if_false, String.ofList_toList]

theorem endsInSlash_dropSlashes (h : p.dropSlashes.endsInSlash = true) : p.dropSlashes = ⟨"/"⟩ := by
  unfold dropSlashes at h ⊢
  dsimp only at h ⊢
  split_ifs at h ⊢ with hroot
  · rfl
  · rw [endsInSlash, String.toList_ofList, List.getLast?_reverse] at h
    have hlast := List.head?_dropWhile_not (· == '/') p.text.toList.reverse
    rw [beq_iff_eq.mp h] at hlast
    exact absurd hlast (by decide)

theorem text_dropSlashes_ne (h : p.text ≠ "") : p.dropSlashes.text ≠ "" := by
  unfold dropSlashes
  dsimp only
  split_ifs with hroot
  · decide
  · intro hempty
    have hall : (p.text.toList.reverse.dropWhile (· == '/')).reverse = [] := by simpa using hempty
    have hslash : ∀ c ∈ p.text.toList, c = '/' := by
      simpa [List.dropWhile_eq_nil_iff] using List.reverse_eq_nil_iff.mp hall
    refine hroot (Bool.and_eq_true_iff.mpr ⟨by rw [hall]; rfl, ?_⟩)
    unfold isAbsolute
    cases hchars : p.text.toList with
    | nil => exact absurd (String.toList_eq_nil_iff.mp hchars) h
    | cons c cs =>
      rw [hslash c (by rw [hchars]; exact List.mem_cons_self ..)]
      rfl

theorem getLast?_split_ne {cs : List Char} (hne : cs ≠ []) (h : cs.getLast? ≠ some '/') :
    (split cs).getLast? ≠ some [] := by
  induction cs with
  | nil => exact absurd rfl hne
  | cons c cs ih =>
    rw [List.getLast?_cons] at h
    cases cs with
    | nil =>
      have hc : c ≠ '/' := by simpa using h
      simp [split, hc]
    | cons d ds =>
      have htail := ih (by simp) fun hd => h (by rw [hd]; rfl)
      rw [split]
      split
      · rw [List.getLast?_cons]
        cases hs : (split (d :: ds)).getLast? with
        | none => exact absurd (List.getLast?_eq_none_iff.mp hs) (split_ne_nil _)
        | some last =>
          rw [hs] at htail
          exact htail
      · cases hs : split (d :: ds) with
        | nil => exact absurd hs (split_ne_nil _)
        | cons s ss =>
          rw [hs, List.getLast?_cons] at htail
          rw [List.getLast?_cons]
          cases hss : ss.getLast? with
          | none => simp
          | some last =>
            rw [hss] at htail
            exact htail

theorem getLast?_segments_ne (h : p.endsInSlash = false) (hne : p.text ≠ "") : p.segments.getLast? ≠ some "" := by
  have hchars : p.text.toList ≠ [] := by simpa using hne
  have hlast : p.text.toList.getLast? ≠ some '/' := by simpa [endsInSlash] using h
  have hsplit := getLast?_split_ne hchars hlast
  rw [segments, List.getLast?_map]
  cases hs : (split p.text.toList).getLast? with
  | none => simp
  | some last =>
    rw [hs] at hsplit
    simpa using hsplit

theorem endsInSlash_join (h : q.text ≠ "") : (p.join q).endsInSlash = q.endsInSlash := by
  have hchars : q.text.toList ≠ [] := by simpa using h
  have hend (before : String) : (before ++ q.text).toList.getLast? = q.text.toList.getLast? := by
    rw [String.toList_append, List.getLast?_append, List.getLast?_eq_some_getLast hchars, Option.some_or]
  unfold join
  split
  · rfl
  · split
    · exact congrArg (· == some '/') (hend p.text)
    · exact congrArg (· == some '/') (hend (p.text ++ "/"))

end CommitCharts.Path
