import CommitCharts.Record
import CommitCharts.SortedMap

/-!
# CommitCharts.Series — the cycles of every commit

A frame holds the cycles of one commit by test id.  A series holds a frame for every commit that was seen
and the list of commits that are shown, most recent first.
-/

namespace CommitCharts

abbrev Frame := SortedMap TestId UInt64

structure Series where
  frames : SortedMap String Frame := ∅
  commits : List String := []
  deriving DecidableEq, Repr, Inhabited

/-- The first seven characters of a commit's name. -/
def shortCommit (commit : String) : String := String.ofList (commit.toList.take 7)

namespace Series

def size (s : Series) : Nat := s.commits.length

def isEmpty (s : Series) : Bool := s.commits.isEmpty

def frame? (s : Series) (commit : String) : Option Frame := s.frames.get? commit

/-- The cycles of a test at a commit; zero where nothing is recorded. -/
def value (s : Series) (commit : String) (id : TestId) : UInt64 :=
  ((s.frame? commit).bind (·.get? id)).getD 0

/-- The cycles of a test at the shown commits, in their order. -/
def values (s : Series) (id : TestId) : List UInt64 := s.commits.map (s.value · id)

def labels (s : Series) : List String := s.commits.map shortCommit

end Series

end CommitCharts
