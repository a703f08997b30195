import CommitCharts.Proofs.Series.Summary
import CommitCharts.Proofs.Text
import CommitCharts.Series.Table
import Mathlib.Algebra.GroupWithZero.Nat
import Mathlib.Data.List.DropRight

/-!
# CommitCharts.Proofs.Series.Table — the table is aligned and loses nothing

The width of a column is taken of digits and of the bytes of a name, and a cell is filled up to it by characters.  No
text is longer than its column all the same, since a character has at least one byte: nothing is cut off and every row
has the same width (`rowShows_rowText`).  A cell is read back without the blanks before it, as no text that is shown
starts with one: short names are trimmed, and numbers are digits.
-/

namespace CommitCharts

namespace Text

variable {c : Char} {cs : List Char}

/-- A trimmed text does not start with white space. -/
theorem isBlank_head_trimChars (h : (trimChars cs).head? = some c) : isBlank c = false := by
  have hprefix : trimChars cs <+: cs.dropWhile isBlank := List.rdropWhile_prefix isBlank (cs.dropWhile isBlank)
  obtain ⟨rest, hrest⟩ := hprefix
  have hhead : (cs.dropWhile isBlank).head? = some c := by rw [← hrest, List.head?_append, h, Option.some_or]
  have hnot := List.head?_dropWhile_not isBlank cs
  rw [hhead] at hnot
  exact hnot

theorem dropWhile_padLeft {width : Nat} (h : cs.head? ≠ some ' ') :
    (padLeft width cs).dropWhile (· == ' ') = cs := by
  unfold padLeft
  rw [List.dropWhile_append_of_pos (by simp)]
  cases cs with
  | nil => rfl
  | cons c cs => exact List.dropWhile_cons_of_neg (by simpa using h)

end Text

theorem Test.head_shortName (t : Test) : t.shortName.toList.head? ≠ some ' ' := by
  intro hhead
  have htrimmed : ∃ cs, t.shortName.toList = Text.trimChars cs := by
    unfold Test.shortName
    split
    · exact ⟨_, String.toList_ofList⟩
    · exact ⟨_, String.toList_ofList⟩
  obtain ⟨cs, hcs⟩ := htrimmed
  rw [hcs] at hhead
  exact absurd (Text.isBlank_head_trimChars hhead) (by decide)

namespace Series

/-! ### A row and its columns -/

/-- How many characters a row has: nine of the label, and two more than its width for each column. -/
def rowWidth (widths : List Nat) : Nat := 9 + (widths.map (2 + ·)).sum

/-- The text in a column: the characters that stand in its place, without the blanks before the first that is none. -/
def cellText (widths : List Nat) (i : Nat) (row : List Char) : List Char :=
  ((row.drop (rowWidth (widths.take i) + 2)).take (widths.getD i 0)).dropWhile (· == ' ')

/-- The row has the label and, in columns of the given widths, the texts. -/
structure RowShows (widths : List Nat) (row label : List Char) (texts : List (List Char)) : Prop where
  length : row.length = rowWidth widths
  label : row.take 9 = Text.padRight 9 label
  texts : ∀ i text, texts[i]? = some text → cellText widths i row = text

/-- A row without the end of its line. -/
def rowText (label : List Char) (cells : List (Nat × List Char)) : List Char :=
  Text.padRight 9 label ++ cells.flatMap (fun c => ' ' :: ' ' :: Text.padLeft c.1 c.2)

variable {label : List Char} {cells : List (Nat × List Char)}

/-- A row has the width of its columns if the label and every text fit. -/
theorem length_rowText (hlabel : label.length ≤ 9) (hfit : ∀ c ∈ cells, c.2.length ≤ c.1) :
    (rowText label cells).length = rowWidth (cells.map (·.1)) := by
  have hcell : ∀ c ∈ cells, (' ' :: ' ' :: Text.padLeft c.1 c.2).length = 2 + c.1 := by
    intro c hc
    have := hfit c hc
    simp only [List.length_cons, Text.length_padLeft]
    omega
  unfold rowText rowWidth
  rw [List.length_append, Text.length_padRight, Nat.max_eq_left hlabel, List.length_flatMap, List.map_map,
    List.map_congr_left hcell]
  rfl

theorem take_rowText (hlabel : label.length ≤ 9) : (rowText label cells).take 9 = Text.padRight 9 label := by
  unfold rowText
  exact List.take_left' (by rw [Text.length_padRight, Nat.max_eq_left hlabel])

/-- The characters in the place of a column are those of its cell. -/
theorem take_drop_rowText (hlabel : label.length ≤ 9) (hfit : ∀ c ∈ cells, c.2.length ≤ c.1) {i : Nat}
    {c : Nat × List Char} (hc : cells[i]? = some c) :
    ((rowText label cells).drop (rowWidth ((cells.map (·.1)).take i) + 2)).take c.1 = Text.padLeft c.1 c.2 := by
  obtain ⟨hi, rfl⟩ := List.getElem?_eq_some_iff.1 hc
  -- the row is the row of the columns before this one, then the cell, then the rest
  have hsplit : rowText label cells = rowText label (cells.take i) ++
      (' ' :: ' ' :: (Text.padLeft cells[i].1 cells[i].2 ++
        (cells.drop (i + 1)).flatMap (fun c => ' ' :: ' ' :: Text.padLeft c.1 c.2))) := by
    unfold rowText
    conv_lhs => rw [← List.take_append_drop i cells, List.drop_eq_getElem_cons hi]
    simp only [List.flatMap_append, List.flatMap_cons, List.append_assoc, List.cons_append]
  have hbefore : (rowText label (cells.take i)).length = rowWidth ((cells.map (·.1)).take i) := by
    rw [length_rowText hlabel (fun c hc => hfit c (List.mem_of_mem_take hc)), List.map_take]
  have hwidth : (Text.padLeft cells[i].1 cells[i].2).length = cells[i].1 := by
    rw [Text.length_padLeft, Nat.max_eq_left (hfit _ (List.getElem_mem hi))]
  rw [hsplit, ← hbefore, List.drop_length_add_append]
  exact List.take_left' hwidth

/-- **A row** of labels and texts that fit can be read back, cell by cell. -/
theorem rowShows_rowText {tests : List Test} {width : Test → Nat} {text : Test → List Char}
    (hlabel : label.length ≤ 9) (hfit : ∀ t ∈ tests, (text t).length ≤ width t)
    (hstart : ∀ t, (text t).head? ≠ some ' ') :
    RowShows (tests.map width) (rowText label (tests.map fun t => (width t, text t))) label (tests.map text) := by
  have hwidths : (tests.map fun t => (width t, text t)).map (·.1) = tests.map width := by
    rw [List.map_map]
    rfl
  have hcells : ∀ c ∈ tests.map fun t => (width t, text t), c.2.length ≤ c.1 := List.forall_mem_map.2 hfit
  refine ⟨?_, take_rowText hlabel, fun i shown hshown => ?_⟩
  · rw [length_rowText hlabel hcells, hwidths]
  · obtain ⟨t, ht, rfl⟩ := Option.map_eq_some_iff.1 (List.getElem?_map.symm.trans hshown)
    have hcell : (tests.map fun t => (width t, text t))[i]? = some (width t, text t) := by
      rw [List.getElem?_map, ht]
      rfl
    have hwidth : (tests.map width).getD i 0 = width t := by
      rw [List.getD_eq_getElem?_getD, List.getElem?_map, ht]
      rfl
    have hplace := take_drop_rowText hlabel hcells hcell
    unfold cellText
    rw [hwidth, ← hwidths, hplace, Text.dropWhile_padLeft (hstart t)]

/-! ### The texts of a series -/

theorem head_digits (n : UInt64) : (digits n).head? ≠ some ' ' := by
  intro hhead
  have hdigit := Nat.isDigit_of_mem_toDigits (by decide) (by decide) (List.mem_of_head? hhead)
  exact absurd hdigit (by decide)

theorem length_shortCommit (commit : String) : (shortCommit commit).toList.length ≤ 7 := by
  unfold shortCommit
  rw [String.toList_ofList, List.length_take]
  exact Nat.min_le_left _ _

theorem shortName_fits (s : Series) (t : Test) : t.shortName.toList.length ≤ s.columnWidth t := by
  have hbytes := Text.length_le_utf8ByteSize t.shortName.toList
  rw [String.ofList_toList] at hbytes
  unfold columnWidth
  rw [List.foldl_max]
  exact hbytes.trans (Nat.le_max_left _ _)

theorem value_fits {s : Series} {commit : String} (h : commit ∈ s.commits) (t : Test) :
    (digits (s.value commit t.id)).length ≤ s.columnWidth t := by
  have hmem : (digits (s.value commit t.id)).length ∈ (s.values t.id).map fun v => (digits v).length :=
    List.mem_map_of_mem (List.mem_map_of_mem h)
  unfold columnWidth
  rw [List.foldl_max]
  exact (List.le_max?_getD_of_mem hmem).trans (Nat.le_max_right _ _)

/-- The numbers of a shown commit stand in its place in the values of a test and in the summary. -/
theorem getElem?_summary {s : Series} {catalog : Catalog} {i j : Nat} {commit : String} {t : Test}
    (hcommit : s.commits[j]? = some commit) (ht : catalog.tests[i]? = some t) (records : Nat) :
    (s.values t.id)[j]? = some (s.value commit t.id) ∧
      ∃ row, (Summary.ofSeries s catalog records).commits[j]? = some row ∧ row.commit = commit ∧
        row.cycles[i]? = some ⟨t.id, t.shortName, s.value commit t.id⟩ := by
  refine ⟨?_, Summary.row s catalog commit, ?_, rfl, ?_⟩
  · rw [getElem?_values, hcommit]
    rfl
  · show (s.commits.map (Summary.row s catalog))[j]? = _
    rw [List.getElem?_map, hcommit]
    rfl
  · show (catalog.tests.map fun t => (⟨t.id, t.shortName, s.value commit t.id⟩ : TestCycles))[i]? = _
    rw [List.getElem?_map, ht]
    rfl

/-- **The table is aligned and loses nothing**: it has a line for the names of the tests and one for each shown commit,
and all of them have the width of the columns.  Each cell reads as the short name of its test or as the digits of a
number, and the number they are read as is the one that the values of the test and the summary of the series have in
this place. -/
theorem table_aligned (s : Series) (catalog : Catalog) :
    ∃ header lines, (s.table catalog).toList = (header :: lines).flatMap (· ++ ['\n']) ∧
      RowShows (catalog.tests.map s.columnWidth) header "commit".toList (catalog.tests.map (·.shortName.toList)) ∧
      lines.length = s.commits.length ∧
      ∀ (j : Nat) (commit : String) (line : List Char), s.commits[j]? = some commit → lines[j]? = some line →
        RowShows (catalog.tests.map s.columnWidth) line (shortCommit commit).toList
          (catalog.tests.map fun t => digits (s.value commit t.id)) ∧
        ∀ (i : Nat) (t : Test) (records : Nat), catalog.tests[i]? = some t →
          Nat.ofDigitChars 10 (cellText (catalog.tests.map s.columnWidth) i line) 0 =
            (s.value commit t.id).toNat ∧
          (s.values t.id)[j]? = some (s.value commit t.id) ∧
          ∃ row, (Summary.ofSeries s catalog records).commits[j]? = some row ∧ row.commit = commit ∧
            row.cycles[i]? = some ⟨t.id, t.shortName, s.value commit t.id⟩ := by
  let header := rowText "commit".toList (catalog.tests.map fun t => (s.columnWidth t, t.shortName.toList))
  let line (commit : String) := rowText (shortCommit commit).toList
    (catalog.tests.map fun t => (s.columnWidth t, digits (s.value commit t.id)))
  refine ⟨header, s.commits.map line, ?_, ?_, List.length_map _, fun j commit shown hcommit hshown => ?_⟩
  · unfold table
    rw [String.toList_ofList, List.flatMap_cons, List.flatMap_map]
    rfl
  · exact rowShows_rowText (by decide) (fun t _ => shortName_fits s t) Test.head_shortName
  · rw [List.getElem?_map, hcommit] at hshown
    obtain rfl := Option.some.inj hshown
    have hshows : RowShows (catalog.tests.map s.columnWidth) (line commit) (shortCommit commit).toList
        (catalog.tests.map fun t => digits (s.value commit t.id)) :=
      rowShows_rowText ((length_shortCommit commit).trans (by decide))
        (fun t _ => value_fits (List.mem_of_getElem? hcommit) t) (fun t => head_digits _)
    refine ⟨hshows, fun i t records ht => ⟨?_, getElem?_summary hcommit ht records⟩⟩
    have hcell := hshows.texts i (digits (s.value commit t.id)) (by rw [List.getElem?_map, ht]; rfl)
    rw [hcell]
    exact Nat.ofDigitChars_ten_toDigits

end Series

end CommitCharts
