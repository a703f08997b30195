import CommitCharts.Proofs.Path
import Mathlib.Data.List.Basic

/-!
# CommitCharts.Proofs.Path.Join — joining as an action

Joining puts the text of a relative path behind the lead of the left side, which is its text and the slash that is still
missing.  The lead of a joined path is that of the left side and then that of the right one (`lead_join`), so that it
does not matter which of two joins comes first (`join_assoc`), and what is joined to an absolute path is absolute
(`isAbsolute_join`).
-/

namespace CommitCharts.Path

variable {p q : Path}

/-- The text of a path as it stands before the one that is joined to it. -/
def lead (p : Path) : String := if p.text.isEmpty || p.endsInSlash then p.text else p.text ++ "/"

theorem join_relative (p : Path) (h : q.isAbsolute = false) : p.join q = ⟨p.lead ++ q.text⟩ := by
  unfold join lead
  rw [h, if_neg Bool.false_ne_true]
  split_ifs
  · rfl
  · rfl

theorem lead_empty : (Path.mk "").lead = "" := rfl

theorem lead_of_endsInSlash (h : p.endsInSlash = true) : p.lead = p.text := by
  unfold lead
  rw [h, Bool.or_true, if_pos rfl]

theorem endsInSlash_lead (h : p.text ≠ "") : (Path.mk p.lead).endsInSlash = true := by
  unfold lead
  split_ifs with hslash
  · simpa [h] using hslash
  · simp [endsInSlash]

theorem lead_lead (p : Path) : (Path.mk p.lead).lead = p.lead := by
  by_cases hempty : p.text = ""
  · obtain rfl : p = ⟨""⟩ := congrArg Path.mk hempty
    rfl
  · exact lead_of_endsInSlash (endsInSlash_lead hempty)

/-- **The lead of a joined path** is that of the left side followed by that of the right one. -/
theorem lead_join (p : Path) (h : q.isAbsolute = false) : (p.join q).lead = p.lead ++ q.lead := by
  by_cases hempty : q.text = ""
  · obtain rfl : q = ⟨""⟩ := congrArg Path.mk hempty
    rw [join_relative p h, lead_empty, String.append_empty, lead_lead]
  · have hslash : (p.join q).endsInSlash = q.endsInSlash := endsInSlash_join hempty
    have htext : (p.join q).text = p.lead ++ q.text := by rw [join_relative p h]
    unfold lead at htext ⊢
    rw [hslash, htext]
    cases q.endsInSlash with
    | true => simp
    | false => simp [hempty, String.append_assoc]

theorem isAbsolute_join (p q : Path) : (p.join q).isAbsolute = (p.isAbsolute || q.isAbsolute) := by
  cases hq : q.isAbsolute with
  | true => rw [join_absolute hq, hq, Bool.or_true]
  | false =>
    rw [join_relative p hq, Bool.or_false]
    by_cases hempty : p.text = ""
    · obtain rfl : p = ⟨""⟩ := congrArg Path.mk hempty
      rw [lead_empty, String.empty_append]
      exact hq
    · have hstart (tail : String) : (Path.mk (p.text ++ tail)).isAbsolute = p.isAbsolute := by
        unfold isAbsolute
        rw [String.toList_append, List.head?_append_of_ne_nil _ (by simpa using hempty)]
      unfold lead
      split_ifs
      · exact hstart q.text
      · rw [String.append_assoc]
        exact hstart _

/-- **Joining is associative**, whatever the sides end in and whether they are absolute or empty. -/
theorem join_assoc (p q r : Path) : (p.join q).join r = p.join (q.join r) := by
  cases hr : r.isAbsolute with
  | true => rw [join_absolute hr, join_absolute hr, join_absolute hr]
  | false =>
    have habsolute : (q.join r).isAbsolute = q.isAbsolute := by rw [isAbsolute_join, hr, Bool.or_false]
    cases hq : q.isAbsolute with
    | true => rw [join_absolute hq, join_absolute (habsolute.trans hq)]
    | false =>
      rw [join_relative _ hr, lead_join p hq, join_relative p (habsolute.trans hq), join_relative q hr,
        String.append_assoc]

end CommitCharts.Path
