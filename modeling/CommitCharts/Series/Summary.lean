import CommitCharts.Json.Value
import CommitCharts.Series

/-!
# CommitCharts.Series.Summary — the series as structured data

The summary lists, for every shown commit in order, the cycles of every test in catalog order, under the
number of records and commits that were read.
-/

namespace CommitCharts

structure TestCycles where
  testId : TestId
  test : String
  cycles : UInt64
  deriving DecidableEq, Repr, Inhabited

structure CommitRow where
  commit : String
  cycles : List TestCycles
  deriving DecidableEq, Repr, Inhabited

structure Summary where
  schemaVersion : UInt32
  records : Nat
  commitsSeen : Nat
  commits : List CommitRow
  deriving DecidableEq, Repr, Inhabited

def TestCycles.toJson (t : TestCycles) : Json.Value :=
  .object [("test_id", .number t.testId.toNat), ("test", .string t.test), ("cycles", .number t.cycles.toNat)]

def CommitRow.toJson (r : CommitRow) : Json.Value :=
  .object [("commit", .string r.commit), ("cycles", .array (r.cycles.map TestCycles.toJson))]

namespace Summary

/-- The row of one commit: one entry for each test, in catalog order. -/
def row (s : Series) (catalog : Catalog) (commit : String) : CommitRow :=
  ⟨commit, catalog.tests.map fun t => ⟨t.id, t.shortName, s.value commit t.id⟩⟩

def ofSeries (s : Series) (catalog : Catalog) (records : Nat) : Summary :=
  ⟨1, records, s.frames.size, s.commits.map (row s catalog)⟩

def toJson (s : Summary) : Json.Value :=
  .object [("schema_version", .number s.schemaVersion.toNat), ("records", .number s.records),
    ("commits_seen", .number s.commitsSeen), ("commits", .array (s.commits.map CommitRow.toJson))]

def prettyText (s : Summary) : String := s.toJson.pretty

end Summary

end CommitCharts
