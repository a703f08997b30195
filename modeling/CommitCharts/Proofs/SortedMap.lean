import CommitCharts.SortedMap
import Mathlib.Data.List.Perm.Subperm

/-!
# CommitCharts.Proofs.SortedMap — keys and size

The keys of a map are distinct, so a map whose keys are taken from a list is as large as the list only when the list
has no repetition and every key of it is there.  Laying one map over another keeps the entries of the upper one
(`get?_overlay`).
-/

namespace CommitCharts.SortedMap

universe u v

variable {α : Type u} {β : Type v} [Ord α]

@[simp] theorem length_keys (m : SortedMap α β) : m.keys.length = m.size := by simp [keys, size]

section Laws

variable [Std.LawfulEqOrd α]

theorem nodup_keys (m : SortedMap α β) : m.keys.Nodup := by
  refine List.pairwise_map.2 (m.ascending.imp fun {a b} hab he => ?_)
  rw [he, Std.compare_self] at hab
  exact absurd hab (by decide)

/-- A key has one entry at most. -/
theorem filter_key [DecidableEq α] (m : SortedMap α β) (k : α) :
    (m.entries.filter fun e => e.1 = k) = ((m.get? k).map (k, ·)).toList := by
  obtain ⟨entries, hascending⟩ := m
  change (entries.filter fun e => e.1 = k) = ((find k entries).map (k, ·)).toList
  induction entries with
  | nil => rfl
  | cons e es ih =>
    obtain ⟨hfirst, hrest⟩ := List.pairwise_cons.1 hascending
    rw [find_cons]
    by_cases hk : e.1 = k
    · -- the keys behind the first one are larger
      have hnone : es.filter (fun d => decide (d.1 = k)) = [] := by
        refine List.filter_eq_nil_iff.2 fun d hd hdk => ?_
        have hlt := hfirst d hd
        rw [of_decide_eq_true hdk, hk, Std.compare_self] at hlt
        cases hlt
      rw [List.filter_cons, if_pos (decide_eq_true hk), hnone, if_pos (Std.compare_eq_iff_eq.2 hk.symm), ← hk]
      rfl
    · rw [List.filter_cons, if_neg (by simpa using hk), if_neg fun h => hk (Std.compare_eq_iff_eq.1 h).symm, ih hrest]

variable [Std.TransOrd α]

theorem mem_keys {m : SortedMap α β} {k : α} : k ∈ m.keys ↔ (m.get? k).isSome := by
  rw [Option.isSome_iff_exists]
  constructor
  · intro h
    obtain ⟨e, he, rfl⟩ := List.mem_map.1 h
    exact ⟨e.2, mem_entries.1 he⟩
  · rintro ⟨v, hv⟩
    exact List.mem_map.2 ⟨(k, v), mem_entries.2 hv, rfl⟩

/-- Comparing sizes tells whether a map has every key of a list, and the list no key twice. -/
theorem size_eq_length_iff {m : SortedMap α β} {ks : List α} (h : ∀ k ∈ m.keys, k ∈ ks) :
    m.size = ks.length ↔ ks.Nodup ∧ ∀ k ∈ ks, (m.get? k).isSome := by
  have hsub : m.keys.Subperm ks := m.nodup_keys.subperm h
  rw [← length_keys]
  constructor
  · intro hlen
    have hperm := hsub.perm_of_length_le (Nat.le_of_eq hlen.symm)
    exact ⟨hperm.nodup_iff.1 m.nodup_keys, fun k hk => mem_keys.1 (hperm.symm.subset hk)⟩
  · rintro ⟨hnodup, hall⟩
    have hsup : ks.Subperm m.keys := hnodup.subperm fun k hk => mem_keys.2 (hall k hk)
    exact Nat.le_antisymm hsub.length_le hsup.length_le

omit [Std.LawfulEqOrd α] in
/-- A new key adds nothing to a selection that it does not belong to. -/
theorem filter_insert_of_fresh {p : α × β → Bool} {m : SortedMap α β} {k : α} {v : β} (hfresh : m.get? k = none)
    (hout : p (k, v) = false) : (m.insert k v).entries.filter p = m.entries.filter p := by
  obtain ⟨entries, hascending⟩ := m
  change find k entries = none at hfresh
  change (place k v entries).filter p = entries.filter p
  clear hascending
  induction entries with
  | nil => simp [place, hout]
  | cons e es ih =>
    unfold place
    rw [find_cons] at hfresh
    cases hk : compare k e.1 with
    | lt => simp [hout]
    | eq =>
      rw [if_pos hk] at hfresh
      cases hfresh
    | gt =>
      rw [if_neg (by rw [hk]; decide)] at hfresh
      simp only [List.filter_cons, ih hfresh]

/-! ### One map over another -/

/-- The entries of the second map, and those of the first one at other keys. -/
def overlay (m n : SortedMap α β) : SortedMap α β := n.entries.foldl (fun m e => m.insert e.1 e.2) m

theorem get?_overlay [DecidableEq α] (m n : SortedMap α β) (k : α) :
    (m.overlay n).get? k = (n.get? k).or (m.get? k) := by
  obtain ⟨entries, hascending⟩ := n
  unfold overlay
  change (entries.foldl (fun m e => m.insert e.1 e.2) m).get? k = (find k entries).or (m.get? k)
  induction entries generalizing m with
  | nil => rfl
  | cons e es ih =>
    obtain ⟨hfirst, hrest⟩ := List.pairwise_cons.1 hascending
    rw [List.foldl_cons, ih (m.insert e.1 e.2) hrest, get?_insert, find_cons]
    by_cases hk : k = e.1
    · -- the keys behind the first one are larger
      have hnone : find k es = none := find_eq_none fun d hd hcompare => by
        rw [hk, hfirst d hd] at hcompare
        cases hcompare
      rw [if_pos hk, if_pos (Std.compare_eq_iff_eq.2 hk), hnone]
      rfl
    · rw [if_neg hk, if_neg (mt Std.compare_eq_iff_eq.1 hk)]

end Laws

end CommitCharts.SortedMap
