import CommitCharts.Database.Recent
import CommitCharts.Proofs.SortedMap

/-!
# CommitCharts.Proofs.Database.Recency — rows run by run

Three keys order the rows that are read, and the first two belong to the run.  So the rows come run by run, the most
recent run first and the rows of one run by number (`rows_eq_flatMap`).  No two runs are equally recent, since their
numbers differ (`keptRuns_pairwise`).
-/

namespace CommitCharts

theorem pairwise_mergeSort_isLE {α : Type} (cmp : α → α → Ordering) [Std.TransCmp cmp] (xs : List α) :
    (xs.mergeSort fun a b => (cmp a b).isLE).Pairwise fun a b => (cmp a b).isLE = true :=
  List.pairwise_mergeSort (fun _ _ _ => Std.TransCmp.isLE_trans)
    (fun a b => by
      rw [@Std.OrientedCmp.eq_swap _ cmp _ b a]
      cases cmp a b <;> rfl) xs

namespace Database

instance : Std.TransOrd TextCell :=
  inferInstanceAs (Std.TransCmp (compareLex (compareOn fun c : TextCell => c.key.1) (compareOn fun c => c.key.2)))

/-- The order of runs in time.  Run numbers decide between equal times. -/
def recency : Int64 × RunRow → Int64 × RunRow → Ordering :=
  compareLex (compareOn fun r => r.2.timestamp) (compareOn fun r => r.1)

instance : Std.TransCmp recency :=
  inferInstanceAs (Std.TransCmp (compareLex (compareOn fun r : Int64 × RunRow => r.2.timestamp)
    (compareOn fun r => r.1)))

/-- The runs that count, most recent first. -/
def keptRuns (runs : SortedMap Int64 RunRow) : List (Int64 × RunRow) :=
  (runs.entries.filter (·.2.isKept)).mergeSort fun a b => (recency b a).isLE

/-- Whether a result names a run. -/
def ResultRow.isOf (id : Int64) (r : ResultRow) : Bool :=
  match r.run with
  | .integer n => n == id
  | _ => false

/-- The results that name a run, by result number. -/
def resultsOf (results : SortedMap Int64 ResultRow) (id : Int64) : List (Int64 × ResultRow) :=
  results.entries.filter (·.2.isOf id)

/-- The rows of a run. -/
def rowsOf (results : SortedMap Int64 ResultRow) (r : Int64 × RunRow) : List Joined :=
  (resultsOf results r.1).map fun e => ⟨r.1, r.2, e.1, e.2⟩

/-- The run of a row, with its number. -/
def Joined.source (j : Joined) : Int64 × RunRow := (j.runId, j.run)

variable {runs : SortedMap Int64 RunRow} {results : SortedMap Int64 ResultRow}

/-! ### Runs -/

theorem eq_of_recency_eq {a b : Int64 × RunRow} (h : recency a b = .eq) : a.1 = b.1 :=
  Std.compare_eq_iff_eq.1 (Ordering.then_eq_eq.1 h).2

theorem keptRuns_perm (runs : SortedMap Int64 RunRow) :
    (keptRuns runs).Perm (runs.entries.filter (·.2.isKept)) := List.mergeSort_perm _ _

theorem mem_keptRuns {r : Int64 × RunRow} : r ∈ keptRuns runs ↔ runs.get? r.1 = some r.2 ∧ r.2.isKept = true := by
  rw [(keptRuns_perm runs).mem_iff, List.mem_filter, SortedMap.mem_entries]

/-- A run whose commit is a text counts unless the text is empty. -/
theorem RunRow.isKept_iff {r : RunRow} {commit : String} (h : r.commit = .text commit) :
    r.isKept = true ↔ commit ≠ "" := by
  unfold isKept
  rw [h]
  simp

/-- A run stands before another only if it is more recent. -/
theorem keptRuns_pairwise (runs : SortedMap Int64 RunRow) :
    (keptRuns runs).Pairwise fun a b => recency b a = .lt := by
  have : Std.TransCmp fun a b => recency b a := Std.TransCmp.opposite
  have hsorted : (keptRuns runs).Pairwise fun a b => (recency b a).isLE = true :=
    pairwise_mergeSort_isLE (fun a b => recency b a) _
  have hdistinct : (keptRuns runs).Pairwise fun a b => a.1 ≠ b.1 := by
    have hkeys : (runs.entries.filter (·.2.isKept)).Pairwise fun a b => a.1 ≠ b.1 :=
      List.Pairwise.filter _ (List.pairwise_map.1 runs.nodup_keys)
    exact hkeys.perm (keptRuns_perm runs).symm Ne.symm
  refine (hsorted.and hdistinct).imp fun {a b} h => ?_
  obtain ⟨hle, hne⟩ := h
  cases hcompare : recency b a with
  | lt => rfl
  | eq => exact absurd (eq_of_recency_eq hcompare).symm hne
  | gt =>
    rw [hcompare] at hle
    cases hle

theorem nodup_of_recency {kept : List (Int64 × RunRow)} (h : kept.Pairwise fun a b => recency b a = .lt) :
    kept.Nodup :=
  h.imp fun {a b} hab he => by
    rw [he, @Std.ReflCmp.compare_self _ recency] at hab
    cases hab

/-- The runs that count can be listed in one way only. -/
theorem keptRuns_eq_of_pairwise {kept : List (Int64 × RunRow)} (hperm : kept.Perm (runs.entries.filter (·.2.isKept)))
    (hsorted : kept.Pairwise fun a b => recency b a = .lt) : keptRuns runs = kept := by
  refine List.Perm.eq_of_pairwise (fun a b _ _ hab hba => ?_) (keptRuns_pairwise runs) hsorted
    ((keptRuns_perm runs).trans hperm.symm)
  rw [@Std.OrientedCmp.eq_swap _ recency _ b a, hba] at hab
  cases hab

/-! ### Rows -/

theorem Joined.order_eq (a b : Joined) :
    a.order b = (recency b.source a.source).then (compare a.resultId b.resultId) :=
  (Ordering.then_assoc _ _ _).symm

instance : Std.TransCmp Joined.order := by
  have hsource : Std.TransCmp fun a b : Joined => recency b.source a.source :=
    { eq_swap := fun {a b} => @Std.OrientedCmp.eq_swap _ recency _ b.source a.source
      isLE_trans := fun hab hbc => @Std.TransCmp.isLE_trans _ recency _ _ _ _ hbc hab }
  have horder : Joined.order =
      compareLex (fun a b : Joined => recency b.source a.source) (compareOn fun j => j.resultId) :=
    funext₂ Joined.order_eq
  rw [horder]
  infer_instance

theorem ResultRow.isOf_iff {id : Int64} {r : ResultRow} : r.isOf id = true ↔ r.run = .integer id := by
  unfold isOf
  cases r.run <;> simp

theorem mem_resultsOf {id : Int64} {e : Int64 × ResultRow} :
    e ∈ resultsOf results id ↔ e ∈ results.entries ∧ e.2.run = .integer id := by
  unfold resultsOf
  rw [List.mem_filter, ResultRow.isOf_iff]

theorem mem_rowsOf {r : Int64 × RunRow} {j : Joined} :
    j ∈ rowsOf results r ↔ j.source = r ∧ (j.resultId, j.result) ∈ resultsOf results r.1 := by
  unfold rowsOf
  rw [List.mem_map]
  constructor
  · rintro ⟨e, he, rfl⟩
    exact ⟨rfl, he⟩
  · rintro ⟨rfl, he⟩
    exact ⟨_, he, rfl⟩

theorem mem_joined {j : Joined} :
    j ∈ joined runs results ↔ j.source ∈ keptRuns runs ∧ j ∈ rowsOf results j.source := by
  rw [mem_keptRuns, mem_rowsOf, mem_resultsOf]
  unfold joined
  rw [List.mem_filterMap]
  constructor
  · rintro ⟨e, he, hj⟩
    obtain ⟨r, hr, hj⟩ := Option.bind_eq_some_iff.1 hj
    obtain ⟨hkept, hj⟩ := Option.ite_none_right_eq_some.1 hj
    obtain rfl := Option.some.inj hj
    unfold ResultRow.runOf? at hr
    cases hrun : e.2.run with
    | integer id =>
      rw [hrun] at hr
      obtain ⟨row, hrow, rfl⟩ := Option.map_eq_some_iff.1 hr
      exact ⟨⟨hrow, hkept⟩, rfl, he, rfl⟩
    | _ =>
      rw [hrun] at hr
      cases hr
  · rintro ⟨⟨hrun, hkept⟩, -, he, hid⟩
    have hsource : j.result.runOf? runs = some j.source := by
      unfold ResultRow.runOf?
      rw [hid]
      exact Option.map_eq_some_iff.2 ⟨j.run, hrun, rfl⟩
    exact ⟨(j.resultId, j.result), he,
      Option.bind_eq_some_iff.2 ⟨j.source, hsource, Option.ite_none_right_eq_some.2 ⟨hkept, rfl⟩⟩⟩

theorem rowsOf_pairwise (results : SortedMap Int64 ResultRow) (r : Int64 × RunRow) :
    (rowsOf results r).Pairwise fun a b => a.order b = .lt := by
  refine List.pairwise_map.2 ((results.ascending.filter _).imp fun {a b} hab => ?_)
  rw [Joined.order_eq]
  dsimp only [Joined.source]
  rw [@Std.ReflCmp.compare_self _ recency]
  exact hab

/-- The rows of all runs, run by run, stand in the order of rows. -/
theorem flatMap_rowsOf_pairwise (runs : SortedMap Int64 RunRow) (results : SortedMap Int64 ResultRow) :
    ((keptRuns runs).flatMap (rowsOf results)).Pairwise fun a b => a.order b = .lt := by
  refine List.pairwise_flatMap.2 ⟨fun r _ => rowsOf_pairwise results r, ?_⟩
  refine (keptRuns_pairwise runs).imp fun {r q} hrq a ha b hb => ?_
  rw [Joined.order_eq, (mem_rowsOf.1 ha).1, (mem_rowsOf.1 hb).1, hrq]
  rfl

theorem nodup_joined (runs : SortedMap Int64 RunRow) (results : SortedMap Int64 ResultRow) :
    (joined runs results).Nodup := by
  have hkeys : results.entries.Pairwise fun a b => a.1 ≠ b.1 := List.pairwise_map.1 results.nodup_keys
  refine List.Pairwise.filterMap _ (fun a b hab j hj k hk => ?_) hkeys
  obtain ⟨q, -, hq⟩ := Option.bind_eq_some_iff.1 hj
  obtain ⟨r, -, hr⟩ := Option.bind_eq_some_iff.1 hk
  obtain ⟨-, hj⟩ := Option.ite_none_right_eq_some.1 hq
  obtain ⟨-, hk⟩ := Option.ite_none_right_eq_some.1 hr
  rintro rfl
  exact hab (congrArg Joined.resultId ((Option.some.inj hj).trans (Option.some.inj hk).symm))

/-- A result number belongs to one row. -/
theorem Joined.eq_of_resultId_eq {a b : Joined} (ha : a ∈ joined runs results) (hb : b ∈ joined runs results)
    (h : a.resultId = b.resultId) : a = b := by
  obtain ⟨hrunA, hrowA⟩ := mem_joined.1 ha
  obtain ⟨hrunB, hrowB⟩ := mem_joined.1 hb
  obtain ⟨hresultA, hidA⟩ := mem_resultsOf.1 (mem_rowsOf.1 hrowA).2
  obtain ⟨hresultB, hidB⟩ := mem_resultsOf.1 (mem_rowsOf.1 hrowB).2
  have hgetA : runs.get? a.runId = some a.run := (mem_keptRuns.1 hrunA).1
  have hgetB : runs.get? b.runId = some b.run := (mem_keptRuns.1 hrunB).1
  have hresult : a.result = b.result := by
    rw [SortedMap.mem_entries, h, SortedMap.mem_entries.1 hresultB] at hresultA
    exact (Option.some.inj hresultA).symm
  have hrunId : a.runId = b.runId := by
    have hid : Value.integer a.runId = .integer b.runId := hidA.symm.trans ((congrArg (·.run) hresult).trans hidB)
    exact Value.integer.inj hid
  have hrun : a.run = b.run := by
    rw [hrunId, hgetB] at hgetA
    exact (Option.some.inj hgetA).symm
  cases a
  cases b
  simp_all only

/-- **Rows come run by run**: the most recent run first, and the rows of a run by number. -/
theorem rows_eq_flatMap (runs : SortedMap Int64 RunRow) (results : SortedMap Int64 ResultRow) :
    rows runs results = (keptRuns runs).flatMap (rowsOf results) := by
  have hsorted := flatMap_rowsOf_pairwise runs results
  have hnodup : ((keptRuns runs).flatMap (rowsOf results)).Nodup := hsorted.imp fun {a b} hab he => by
    rw [he, @Std.ReflCmp.compare_self _ Joined.order] at hab
    cases hab
  have hperm : (joined runs results).Perm ((keptRuns runs).flatMap (rowsOf results)) := by
    refine (List.perm_ext_iff_of_nodup (nodup_joined runs results) hnodup).2 fun j => ?_
    rw [mem_joined, List.mem_flatMap]
    constructor
    · exact fun h => ⟨_, h⟩
    · rintro ⟨r, hr, hj⟩
      obtain ⟨rfl, -⟩ := mem_rowsOf.1 hj
      exact ⟨hr, hj⟩
  refine List.Perm.eq_of_pairwise (fun a b ha hb hab hba => ?_) (pairwise_mergeSort_isLE Joined.order _)
    (hsorted.imp fun {a b} hab => by rw [hab]; rfl) ((List.mergeSort_perm _ _).trans hperm)
  have heq : a.order b = .eq := Std.OrientedCmp.isLE_antisymm hab hba
  rw [Joined.order_eq, Ordering.then_eq_eq] at heq
  exact Joined.eq_of_resultId_eq ((List.mergeSort_perm _ _).mem_iff.1 ha) (hperm.mem_iff.2 hb)
    (Std.compare_eq_iff_eq.1 heq.2)

theorem rows_pairwise (runs : SortedMap Int64 RunRow) (results : SortedMap Int64 ResultRow) :
    (rows runs results).Pairwise fun a b => a.order b = .lt := by
  rw [rows_eq_flatMap]
  exact flatMap_rowsOf_pairwise runs results

theorem mem_rows {j : Joined} : j ∈ rows runs results ↔ j.source ∈ keptRuns runs ∧ j ∈ rowsOf results j.source := by
  unfold rows
  rw [(List.mergeSort_perm _ _).mem_iff, mem_joined]

end Database

end CommitCharts
