/-!
# CommitCharts.SortedMap — finite maps kept in key order

A map is a list of entries with strictly ascending keys, so it has one representation: two maps with the
same look-ups are equal (`ext_get?`).  Each operation is described by what it does to `get?`.
-/

namespace CommitCharts

universe u v

/-- A finite map from `α` to `β`; the entries stand in strictly ascending key order. -/
structure SortedMap (α : Type u) (β : Type v) [Ord α] where
  entries : List (α × β)
  ascending : entries.Pairwise fun a b => compare a.1 b.1 = .lt

namespace SortedMap

section Entries

variable {α : Type u} {β : Type v} [Ord α]

/-- The value at a key in a list of entries. -/
def find (k : α) : List (α × β) → Option β
  | [] => none
  | e :: es => if compare k e.1 = .eq then some e.2 else find k es

/-- Put a value at a key, before the first entry with a larger key. -/
def place (k : α) (v : β) : List (α × β) → List (α × β)
  | [] => [(k, v)]
  | e :: es =>
    match compare k e.1 with
    | .lt => (k, v) :: e :: es
    | .eq => (k, v) :: es
    | .gt => e :: place k v es

@[simp] theorem find_nil (k : α) : find k ([] : List (α × β)) = none := rfl

theorem find_cons (k : α) (e : α × β) (es : List (α × β)) :
    find k (e :: es) = if compare k e.1 = .eq then some e.2 else find k es := rfl

theorem find_eq_none {k : α} {es : List (α × β)} (h : ∀ e ∈ es, compare k e.1 ≠ .eq) :
    find k es = none := by
  induction es with
  | nil => rfl
  | cons e es ih =>
    rw [find_cons, if_neg (h e (List.mem_cons_self ..))]
    exact ih fun e' he => h e' (List.mem_cons_of_mem _ he)

theorem mem_place {k : α} {v : β} {es : List (α × β)} {e : α × β} (h : e ∈ place k v es) :
    e = (k, v) ∨ e ∈ es := by
  induction es with
  | nil => simpa [place] using h
  | cons d es ih =>
    unfold place at h
    split at h
    · simpa using h
    · rcases List.mem_cons.1 h with h | h
      · exact .inl h
      · exact .inr (List.mem_cons_of_mem _ h)
    · rcases List.mem_cons.1 h with h | h
      · exact .inr (h ▸ List.mem_cons_self ..)
      · exact (ih h).imp id (List.mem_cons_of_mem _)

variable [Std.TransOrd α]

theorem pairwise_place (k : α) (v : β) {es : List (α × β)}
    (h : es.Pairwise fun a b => compare a.1 b.1 = .lt) :
    (place k v es).Pairwise fun a b => compare a.1 b.1 = .lt := by
  induction es with
  | nil => simp [place]
  | cons d es ih =>
    obtain ⟨hd, hes⟩ := List.pairwise_cons.1 h
    unfold place
    split
    · rename_i hk
      refine List.pairwise_cons.2 ⟨fun e he => ?_, h⟩
      rcases List.mem_cons.1 he with rfl | he
      · exact hk
      · exact Std.TransCmp.lt_trans hk (hd e he)
    · rename_i hk
      refine List.pairwise_cons.2 ⟨fun e he => ?_, hes⟩
      exact Std.TransCmp.lt_of_eq_of_lt hk (hd e he)
    · rename_i hk
      refine List.pairwise_cons.2 ⟨fun e he => ?_, ih hes⟩
      rcases mem_place he with rfl | he
      · exact Std.OrientedCmp.lt_of_gt hk
      · exact hd e he

end Entries

variable {α : Type u} {β : Type v} [Ord α]

instance [DecidableEq α] [DecidableEq β] : DecidableEq (SortedMap α β) := fun a b =>
  decidable_of_iff (a.entries = b.entries) (by cases a; cases b; simp)

instance [Repr α] [Repr β] : Repr (SortedMap α β) := ⟨fun m => reprPrec m.entries⟩

def empty : SortedMap α β := ⟨[], .nil⟩

instance : EmptyCollection (SortedMap α β) := ⟨empty⟩

instance : Inhabited (SortedMap α β) := ⟨∅⟩

def get? (m : SortedMap α β) (k : α) : Option β := find k m.entries

def contains (m : SortedMap α β) (k : α) : Bool := (m.get? k).isSome

def size (m : SortedMap α β) : Nat := m.entries.length

def keys (m : SortedMap α β) : List α := m.entries.map (·.1)

def values (m : SortedMap α β) : List β := m.entries.map (·.2)

def insert [Std.TransOrd α] (m : SortedMap α β) (k : α) (v : β) : SortedMap α β :=
  ⟨place k v m.entries, pairwise_place k v m.ascending⟩

def erase (m : SortedMap α β) (k : α) : SortedMap α β :=
  ⟨m.entries.filter fun e => compare k e.1 != .eq, m.ascending.filter _⟩

/-- Later entries of the list win. -/
def ofList [Std.TransOrd α] (es : List (α × β)) : SortedMap α β :=
  es.foldl (fun m e => m.insert e.1 e.2) ∅

@[simp] theorem get?_empty (k : α) : (∅ : SortedMap α β).get? k = none := rfl

theorem entries_inj {m n : SortedMap α β} : m.entries = n.entries ↔ m = n := by
  cases m; cases n; simp

section Laws

variable [Std.LawfulEqOrd α]

theorem find_place [DecidableEq α] (k k' : α) (v : β) (es : List (α × β)) :
    find k' (place k v es) = if k' = k then some v else find k' es := by
  induction es with
  | nil => simp [place, find]
  | cons d es ih =>
    unfold place
    split
    · simp [find_cons]
    · rename_i hk
      have hk : k = d.1 := Std.compare_eq_iff_eq.1 hk
      by_cases h : k' = k <;> simp [find_cons, h, ← hk]
    · rename_i hk
      have hne : k ≠ d.1 := by
        rintro rfl
        simp at hk
      by_cases hd : k' = d.1
      · have : k' ≠ k := fun h => hne (h ▸ hd)
        simp [find_cons, hd, Ne.symm hne]
      · simp [find_cons, hd, ih]

theorem get?_insert [Std.TransOrd α] [DecidableEq α] (m : SortedMap α β) (k k' : α) (v : β) :
    (m.insert k v).get? k' = if k' = k then some v else m.get? k' :=
  find_place k k' v m.entries

theorem mem_of_find {k : α} {v : β} {es : List (α × β)} (h : find k es = some v) : (k, v) ∈ es := by
  induction es with
  | nil => simp at h
  | cons d es ih =>
    rw [find_cons] at h
    split at h
    · rename_i hk
      have hk : k = d.1 := Std.compare_eq_iff_eq.1 hk
      obtain rfl : d.2 = v := by simpa using h
      exact hk ▸ List.mem_cons_self ..
    · exact List.mem_cons_of_mem _ (ih h)

theorem find_of_mem {k : α} {v : β} {es : List (α × β)}
    (hs : es.Pairwise fun a b => compare a.1 b.1 = .lt) (h : (k, v) ∈ es) : find k es = some v := by
  induction es with
  | nil => simp at h
  | cons d es ih =>
    obtain ⟨hd, hes⟩ := List.pairwise_cons.1 hs
    rcases List.mem_cons.1 h with rfl | h
    · simp [find_cons]
    · have := hd _ h
      rw [find_cons, if_neg, ih hes h]
      intro hk
      rw [← Std.compare_eq_iff_eq.1 hk] at this
      simp at this

theorem mem_entries [Std.TransOrd α] {m : SortedMap α β} {k : α} {v : β} : (k, v) ∈ m.entries ↔ m.get? k = some v :=
  ⟨find_of_mem m.ascending, mem_of_find⟩

/-- Two maps with the same look-ups are equal. -/
theorem ext_get? [Std.TransOrd α] {m n : SortedMap α β} (h : ∀ k, m.get? k = n.get? k) : m = n := by
  have key : ∀ e, e ∈ m.entries ↔ e ∈ n.entries := fun e => by
    rw [show e = (e.1, e.2) from rfl, mem_entries, mem_entries, h]
  refine entries_inj.1 ?_
  have irrefl : ∀ {l : List (α × β)}, l.Pairwise (fun a b => compare a.1 b.1 = .lt) → l.Nodup :=
    fun hl => hl.imp fun {a b} hab he => by simp [he] at hab
  refine List.Perm.eq_of_pairwise ?_ m.ascending n.ascending ?_
  · intro a b _ _ hab hba
    exact absurd (Std.TransCmp.lt_trans hab hba) (by simp)
  · exact (List.perm_ext_iff_of_nodup (irrefl m.ascending) (irrefl n.ascending)).2 key

end Laws

end SortedMap

end CommitCharts
