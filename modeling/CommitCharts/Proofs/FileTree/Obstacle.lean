import CommitCharts.Proofs.FileTree.Contents
import CommitCharts.Proofs.FileTree.Descent

/-!
# CommitCharts.Proofs.FileTree.Obstacle — what is in the way

What keeps directories from being made along names is a name that is too long or that of a file (`Making.obstacle`).
So it is the same in two trees with files in the same places (`obstacle?_congr`).
-/

namespace CommitCharts.FileTree

variable {α : Type} {t t' : FileTree α} {l k : Location} {name : String} {names : List String} {p : Path}
  {fault : Option Fault}

/-- The fault of the first name that is too long or that of a file. -/
def obstacle? (t : FileTree α) (l : Location) : List String → Option Fault
  | [] => none
  | name :: names =>
    if 255 < name.utf8ByteSize then some .nameTooLong
    else if (t.content? (l ++ [name])).isSome then some (if names.all Path.isNoise then .exists else .notDirectory)
    else t.obstacle? (l ++ [name]) names

/-- Files above the end of the names are in their way, and nothing else in the tree is. -/
theorem obstacle?_congr
    (h : ∀ k, k <+: names → (t'.content? (l ++ k)).isSome = (t.content? (l ++ k)).isSome) :
    t'.obstacle? l names = t.obstacle? l names := by
  induction names generalizing l with
  | nil => rfl
  | cons name names ih =>
    have hname := h [name] (List.prefix_iff_eq_take.mpr rfl)
    have hbelow : t'.obstacle? (l ++ [name]) names = t.obstacle? (l ++ [name]) names := by
      refine ih fun k hk => ?_
      rw [List.append_assoc]
      exact h (name :: k) ((List.prefix_cons_inj name).mpr hk)
    rw [obstacle?, obstacle?, hname, hbelow]

theorem obstacle?_eq_none :
    t.obstacle? l names = none ↔
      (∀ name ∈ names, name.utf8ByteSize ≤ 255) ∧ ∀ k, k ≠ [] → k <+: names → t.content? (l ++ k) = none := by
  induction names generalizing l with
  | nil =>
    refine ⟨fun _ => ⟨by simp, fun k hne hk => absurd (List.prefix_nil.mp hk) hne⟩, fun _ => rfl⟩
  | cons name names ih =>
    rw [obstacle?]
    constructor
    · intro h
      split_ifs at h with hlong hfile
      obtain ⟨hsizes, hfree⟩ := ih.mp h
      refine ⟨?_, fun k hne hk => ?_⟩
      · rintro name' (_ | ⟨_, hmem⟩)
        · omega
        · exact hsizes name' hmem
      · rcases List.prefix_cons_iff.mp hk with rfl | ⟨below, rfl, hbelow⟩
        · exact absurd rfl hne
        · by_cases hnil : below = []
          · rw [hnil]
            simpa using hfile
          · rw [List.append_cons]
            exact hfree below hnil hbelow
    · rintro ⟨hsizes, hfree⟩
      have hname : t.content? (l ++ [name]) = none := hfree [name] (by simp) (by simp)
      rw [if_neg (Nat.not_lt.mpr (hsizes name (List.mem_cons_self ..))), if_neg (by simp [hname]), ih]
      refine ⟨fun name' hmem => hsizes name' (List.mem_cons_of_mem _ hmem), fun k _ hk => ?_⟩
      rw [← List.append_cons]
      exact hfree (name :: k) (by simp) ((List.prefix_cons_inj name).mpr hk)

theorem content?_of_directory (h : t.node? l = some .directory) : t.content? l = none := by
  unfold content?
  rw [h]

theorem Making.obstacle (h : Making t l names t' fault) : fault = t.obstacle? l names := by
  induction h with
  | done => rfl
  | long size => rw [obstacle?, if_pos size]
  | blocked plain node =>
    rw [obstacle?, if_neg (Nat.not_lt.mpr plain.size), content?_eq_some.mpr node]
    rfl
  | down plain node _ ih =>
    rw [obstacle?, if_neg (Nat.not_lt.mpr plain.size), if_neg (by simp [content?_of_directory node])]
    exact ih
  | @new t t' l name names fault plain node _ ih =>
    have hfree : t.content? (l ++ [name]) = none := by
      unfold content?
      rw [node]
    rw [obstacle?, if_neg (Nat.not_lt.mpr plain.size), if_neg (by simp [hfree]), ih]
    exact obstacle?_congr fun k _ => by rw [content?_put_directory (by simp) node]

/-- Making directories leaves every file as it is. -/
theorem Making.content? (h : Making t l names t' fault) (k : Location) : t'.content? k = t.content? k := by
  induction h with
  | done => rfl
  | long => rfl
  | blocked => rfl
  | down _ _ _ ih => exact ih
  | new _ node _ ih => rw [ih, content?_put_directory (by simp) node]

end CommitCharts.FileTree
