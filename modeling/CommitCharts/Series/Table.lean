import CommitCharts.Series

/-!
# CommitCharts.Series.Table — the series as aligned text

One row per shown commit under a header of short names.  The label column is nine characters wide and
flushed left; each test has a column, flushed right, two blanks away from the one before it.
-/

namespace CommitCharts

namespace Text

def padRight (width : Nat) (cs : List Char) : List Char := cs ++ List.replicate (width - cs.length) ' '

def padLeft (width : Nat) (cs : List Char) : List Char := List.replicate (width - cs.length) ' ' ++ cs

@[simp] theorem length_padRight (width : Nat) (cs : List Char) :
    (padRight width cs).length = max width cs.length := by
  simp [padRight]; omega

@[simp] theorem length_padLeft (width : Nat) (cs : List Char) :
    (padLeft width cs).length = max width cs.length := by
  simp [padLeft]; omega

end Text

namespace Series

def digits (n : UInt64) : List Char := Nat.toDigits 10 n.toNat

/-- Wide enough for the values of a test and for the bytes of its short name. -/
def columnWidth (s : Series) (t : Test) : Nat :=
  ((s.values t.id).map fun v => (digits v).length).foldl max t.shortName.utf8ByteSize

/-- A row: the label, then each cell in the width of its column. -/
def tableRow (label : List Char) (cells : List (Nat × List Char)) : List Char :=
  Text.padRight 9 label ++ cells.flatMap (fun c => ' ' :: ' ' :: Text.padLeft c.1 c.2) ++ ['\n']

def tableHeader (s : Series) (catalog : Catalog) : List Char :=
  tableRow "commit".toList (catalog.tests.map fun t => (s.columnWidth t, t.shortName.toList))

def tableLine (s : Series) (catalog : Catalog) (commit : String) : List Char :=
  tableRow (shortCommit commit).toList
    (catalog.tests.map fun t => (s.columnWidth t, digits (s.value commit t.id)))

def table (s : Series) (catalog : Catalog) : String :=
  String.ofList (s.tableHeader catalog ++ s.commits.flatMap (s.tableLine catalog))

end Series

end CommitCharts
