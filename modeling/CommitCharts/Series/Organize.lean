import CommitCharts.Series

/-!
# CommitCharts.Series.Organize — from records to a series

Records are grouped into frames one after another.  A record of a test outside the catalog still counts as
a sighting of its commit, but leaves no value.  The shown commits are the first complete ones, in the order
of their first sighting.
-/

namespace CommitCharts

/-- The frames of the records read so far and their commits in the order of first sighting. -/
structure Grouping where
  frames : SortedMap String Frame := ∅
  seen : List String := []
  deriving DecidableEq, Repr, Inhabited

namespace Grouping

variable (catalog : Catalog)

/-- The frame of a commit after one more record of it; a later value replaces an earlier one. -/
def enter (frame : Frame) (r : Record) : Frame :=
  if catalog.contains r.testId then frame.insert r.testId r.cycles else frame

def add (g : Grouping) (r : Record) : Grouping :=
  match g.frames.get? r.commit with
  | some frame => { g with frames := g.frames.insert r.commit (enter catalog frame r) }
  | none => ⟨g.frames.insert r.commit (enter catalog ∅ r), g.seen ++ [r.commit]⟩

def ofRecords (records : List Record) : Grouping := records.foldl (add catalog) {}

/-- A commit is complete when its frame has as many values as the catalog has tests. -/
def isComplete (g : Grouping) (commit : String) : Bool :=
  match g.frames.get? commit with
  | some frame => frame.size == catalog.size
  | none => false

@[simp] theorem ofRecords_nil : ofRecords catalog [] = {} := rfl

theorem ofRecords_concat (records : List Record) (r : Record) :
    ofRecords catalog (records ++ [r]) = add catalog (ofRecords catalog records) r := by
  simp [ofRecords, List.foldl_append]

end Grouping

/-- The series of the first `maxCommits` complete commits of the records. -/
def Series.organize (records : List Record) (catalog : Catalog) (maxCommits : Nat) : Series :=
  let g := Grouping.ofRecords catalog records
  { frames := g.frames, commits := (g.seen.filter (g.isComplete catalog)).take maxCommits }

end CommitCharts
