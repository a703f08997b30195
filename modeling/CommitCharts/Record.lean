import CommitCharts.Catalog

/-!
# CommitCharts.Record — one measured result

A record says how many cycles one test took at one commit.
-/

namespace CommitCharts

structure Record where
  commit : String
  testId : TestId
  testName : String
  cycles : UInt64
  deriving DecidableEq, Repr, Inhabited

end CommitCharts
