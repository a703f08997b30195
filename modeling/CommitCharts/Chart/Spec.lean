import CommitCharts.Catalog

/-!
# CommitCharts.Chart.Spec — what a chart shows

The overview has a bar for every test at every commit; a trend has one line, for one test.
-/

namespace CommitCharts.Chart

structure Size where
  width : UInt32
  height : UInt32
  deriving DecidableEq, Repr, Inhabited

inductive LegendStyle where
  | short
  | flattened
  deriving DecidableEq, Repr

inductive Spec where
  | overview (title : String) (legend : LegendStyle) (size : Size)
  | trend (testId : TestId) (size : Size)
  deriving DecidableEq, Repr

def Spec.size : Spec → Size
  | .overview _ _ size => size
  | .trend _ size => size

def LegendStyle.label : LegendStyle → Test → String
  | .short, t => t.shortName
  | .flattened, t => t.flatName

end CommitCharts.Chart
