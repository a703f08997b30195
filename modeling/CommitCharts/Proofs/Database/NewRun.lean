import CommitCharts.Proofs.Database.Recency

/-!
# CommitCharts.Proofs.Database.NewRun — a run is added

Adding a run gives the table of runs one row with a number of its own and leaves the results of all other runs as they
are (`adds_addRun`).  If the run is newer than all that count, its rows come first and all others keep their order
(`Adds.rows_eq`).
-/

namespace CommitCharts.Database

/-- The tables before and after a run with its results was added. -/
structure Adds (runs runs' : SortedMap Int64 RunRow) (results results' : SortedMap Int64 ResultRow)
    (r : Int64 × RunRow) : Prop where
  fresh : runs.get? r.1 = none
  listed : runs' = runs.insert r.1 r.2
  others : ∀ id, id ≠ r.1 → resultsOf results' id = resultsOf results id

section Rows

variable {runs runs' : SortedMap Int64 RunRow} {results results' : SortedMap Int64 ResultRow} {r : Int64 × RunRow}

theorem Adds.get? (h : Adds runs runs' results results' r) (id : Int64) :
    runs'.get? id = if id = r.1 then some r.2 else runs.get? id := by
  rw [h.listed, SortedMap.get?_insert]

theorem Adds.ne_of_mem_keptRuns (h : Adds runs runs' results results' r) {q : Int64 × RunRow}
    (hq : q ∈ keptRuns runs) : q.1 ≠ r.1 := by
  intro he
  have hlisted := (mem_keptRuns.1 hq).1
  rw [he, h.fresh] at hlisted
  cases hlisted

/-- The runs that count are those before, and the new one if it has a commit. -/
theorem Adds.mem_keptRuns_iff (h : Adds runs runs' results results' r) {q : Int64 × RunRow} :
    q ∈ keptRuns runs' ↔ q = r ∧ r.2.isKept = true ∨ q ∈ keptRuns runs := by
  rw [mem_keptRuns, h.get?]
  by_cases hid : q.1 = r.1
  · rw [if_pos hid]
    constructor
    · rintro ⟨hrow, hkept⟩
      obtain rfl : q = r := Prod.ext hid (Option.some.inj hrow).symm
      exact .inl ⟨rfl, hkept⟩
    · rintro (⟨rfl, hkept⟩ | hq)
      · exact ⟨rfl, hkept⟩
      · exact absurd hid (h.ne_of_mem_keptRuns hq)
  · rw [if_neg hid, mem_keptRuns]
    constructor
    · exact .inr
    · rintro (⟨rfl, -⟩ | hq)
      · exact absurd rfl hid
      · exact hq

/-- A run newer than all others is listed first. -/
theorem Adds.keptRuns_eq (h : Adds runs runs' results results' r) (hkept : r.2.isKept = true)
    (hnewest : ∀ q ∈ keptRuns runs, recency q r = .lt) : keptRuns runs' = r :: keptRuns runs := by
  have hsorted : (r :: keptRuns runs).Pairwise fun a b => recency b a = .lt :=
    List.pairwise_cons.2 ⟨hnewest, keptRuns_pairwise runs⟩
  refine keptRuns_eq_of_pairwise (List.Perm.trans ?_ (keptRuns_perm runs')) hsorted
  have hnodup := nodup_of_recency (keptRuns_pairwise runs')
  refine (List.perm_ext_iff_of_nodup (nodup_of_recency hsorted) hnodup).2 fun q => ?_
  rw [h.mem_keptRuns_iff, List.mem_cons]
  exact or_congr_left (and_iff_left hkept).symm

/-- A run without a commit does not count. -/
theorem Adds.keptRuns_eq_of_unnamed (h : Adds runs runs' results results' r) (hkept : r.2.isKept = false) :
    keptRuns runs' = keptRuns runs := by
  refine keptRuns_eq_of_pairwise ?_ (keptRuns_pairwise runs)
  have hentries : runs'.entries.filter (·.2.isKept) = runs.entries.filter (·.2.isKept) := by
    rw [h.listed]
    exact SortedMap.filter_insert_of_fresh h.fresh hkept
  rw [hentries]
  exact keptRuns_perm runs

/-- Runs that were there before keep their rows. -/
theorem Adds.flatMap_rowsOf (h : Adds runs runs' results results' r) :
    (keptRuns runs).flatMap (rowsOf results') = rows runs results := by
  rw [rows_eq_flatMap]
  refine List.flatMap_congr fun q hq => ?_
  unfold rowsOf
  rw [h.others q.1 (h.ne_of_mem_keptRuns hq)]

/-- **The rows of a new run come first**, and all others follow in their order. -/
theorem Adds.rows_eq (h : Adds runs runs' results results' r) (hkept : r.2.isKept = true)
    (hnewest : ∀ q ∈ keptRuns runs, recency q r = .lt) :
    rows runs' results' = rowsOf results' r ++ rows runs results := by
  rw [rows_eq_flatMap runs' results', h.keptRuns_eq hkept hnewest, List.flatMap_cons, h.flatMap_rowsOf]

theorem Adds.rows_eq_of_unnamed (h : Adds runs runs' results results' r) (hkept : r.2.isKept = false) :
    rows runs' results' = rows runs results := by
  rw [rows_eq_flatMap runs' results', h.keptRuns_eq_of_unnamed hkept, h.flatMap_rowsOf]

end Rows

/-! ### The change that adds a run -/

/-- The numbers in use are at most the last one, and there are `count` more. -/
structure Table.HasRoom {ρ : Type} (t : Table ρ) (count : Nat) : Prop where
  used : ∀ id, (t.rows.get? id).isSome → id ≤ t.lastId
  room : t.lastId.toInt + count ≤ Int64.maxValue.toInt

namespace Table.HasRoom

variable {ρ : Type} {t : Table ρ} {count : Nat}

theorem toInt_nextId (h : t.HasRoom (count + 1)) : t.nextId.toInt = t.lastId.toInt + 1 := by
  have hroom := h.room
  have hlow := t.lastId.minValue_le_toInt
  have hmax : Int64.maxValue.toInt = 2 ^ 63 - 1 := Int64.toInt_maxValue
  have hmin : Int64.minValue.toInt = -2 ^ 63 := rfl
  unfold Table.nextId
  rw [Int64.toInt_add]
  exact Int.bmod_eq_of_le (show -((2 ^ 64 : Nat) / 2 : Int) ≤ t.lastId.toInt + 1 by omega)
    (show t.lastId.toInt + 1 < ((2 ^ 64 : Nat) + 1 : Int) / 2 by omega)

theorem lastId_lt_nextId (h : t.HasRoom (count + 1)) : t.lastId < t.nextId := by
  rw [Int64.lt_iff_toInt_lt, h.toInt_nextId]
  omega

/-- The next number is not in use. -/
theorem get?_nextId (h : t.HasRoom (count + 1)) : t.rows.get? t.nextId = none := by
  rw [← Option.not_isSome_iff_eq_none]
  intro hused
  exact Int64.not_lt.2 (h.used _ hused) h.lastId_lt_nextId

theorem insert (h : t.HasRoom (count + 1)) (row : ρ) : (t.insert t.nextId row).HasRoom count := by
  have hlt := h.lastId_lt_nextId
  have hlast : (t.insert t.nextId row).lastId = t.nextId := if_pos (Int64.le_of_lt hlt)
  refine ⟨fun id hid => ?_, ?_⟩
  · rw [hlast]
    unfold Table.insert at hid
    rw [SortedMap.get?_insert] at hid
    by_cases hnext : id = t.nextId
    · rw [hnext]
      exact Int64.le_refl _
    · rw [if_neg hnext] at hid
      exact Int64.le_trans (h.used id hid) (Int64.le_of_lt hlt)
  · have hroom := h.room
    rw [hlast, h.toInt_nextId]
    omega

end Table.HasRoom

theorem resultsOf_insert_of_ne {results : SortedMap Int64 ResultRow} {k id : Int64} {row : ResultRow}
    (hfresh : results.get? k = none) (hother : row.run ≠ .integer id) :
    resultsOf (results.insert k row) id = resultsOf results id :=
  SortedMap.filter_insert_of_fresh hfresh (Bool.eq_false_iff.2 fun h => hother (ResultRow.isOf_iff.1 h))

/-- Results of one run leave the table of runs and the results of other runs as they are. -/
theorem foldl_addResult {d : Database} {results : Table ResultRow} (hresults : d.results = some results)
    (number : Int64) (rows : List (Value × Value × Value)) (hroom : results.HasRoom rows.length) :
    ∃ results', (rows.foldl (fun d r => d.addResult (.integer number) r.1 r.2.1 r.2.2) d).results = some results' ∧
      (rows.foldl (fun d r => d.addResult (.integer number) r.1 r.2.1 r.2.2) d).runs = d.runs ∧
      ∀ id, id ≠ number → resultsOf results'.rows id = resultsOf results.rows id := by
  induction rows generalizing d results with
  | nil => exact ⟨results, hresults, rfl, fun _ _ => rfl⟩
  | cons row rows ih =>
    have hfirst : (d.addResult (.integer number) row.1 row.2.1 row.2.2).results = some (results.insert results.nextId
        ⟨.integer number, row.1.asInteger, row.2.1.asText, row.2.2.asInteger⟩) := by
      unfold addResult
      rw [hresults]
      rfl
    obtain ⟨results', hall, hruns, hothers⟩ := ih hfirst (hroom.insert _)
    refine ⟨results', hall, hruns, fun id hid => (hothers id hid).trans ?_⟩
    exact resultsOf_insert_of_ne hroom.get?_nextId fun he => hid (Value.integer.inj he).symm

/-- **Adding a run adds it**: the change puts a new run into the tables of a database, if the number of the run is new
and there are numbers left for its results. -/
theorem adds_addRun {d : Database} {runs : Table RunRow} {results : Table ResultRow} (hruns : d.runs = some runs)
    (hresults : d.results = some results) (id : Option Int64) (timestamp commit : Value)
    (rows : List (Value × Value × Value)) (hfresh : runs.rows.get? (id.getD runs.nextId) = none)
    (hroom : results.HasRoom rows.length) :
    ∃ runs' results', (d.apply (.addRun id timestamp commit rows)).runs = some runs' ∧
      (d.apply (.addRun id timestamp commit rows)).results = some results' ∧
      Adds runs.rows runs'.rows results.rows results'.rows
        (id.getD runs.nextId, ⟨timestamp.asText, commit.asText⟩) := by
  set number := id.getD runs.nextId with hnumber
  have hadded : (d.addRun number timestamp commit).runs =
      some (runs.insert number ⟨timestamp.asText, commit.asText⟩) := by
    unfold addRun
    rw [hruns]
    rfl
  obtain ⟨results', hall, hkept, hothers⟩ :=
    foldl_addResult (d := d.addRun number timestamp commit) hresults number rows hroom
  have happly : d.apply (.addRun id timestamp commit rows) =
      rows.foldl (fun d r => d.addResult (.integer number) r.1 r.2.1 r.2.2) (d.addRun number timestamp commit) := by
    unfold apply
    rw [hruns]
    rfl
  rw [happly]
  exact ⟨_, results', hkept.trans hadded, hall, hfresh, rfl, hothers⟩

end CommitCharts.Database
