import CommitCharts.Chart.Plot
import CommitCharts.Chart.Ticks
import CommitCharts.Decimal.Text

/-!
# CommitCharts.Chart.Axes — grid lines, axes and their labels

A fine and a coarse grid, the two axes with a tick for every coarse grid value, and the descriptions of both
axes.
-/

namespace CommitCharts.Chart

open Svg (Element Point)

/-- The label at a horizontal position: the commit there, or nothing between commits. -/
def commitLabel (labels : List String) (v : Float) : String :=
  let i := v.round
  if 1e-6 < (v - i).abs || i < 0.0 then "" else labels[i.toUInt64.toNat]?.getD ""

namespace Plot

variable (p : Plot)

def verticalLines (opacity : String) (values : List Float) : List Element :=
  values.map fun v => .line opacity ⟨p.x v, p.area.bottom - 1⟩ ⟨p.x v, p.area.top⟩

def horizontalLines (opacity : String) (values : List Float) : List Element :=
  values.map fun v => .line opacity ⟨p.area.left, p.y v⟩ ⟨p.area.right - 1, p.y v⟩

def descriptions : List Element :=
  [ .text ⟨20, p.area.top + p.area.height.tdiv 2⟩ "0.76em" .middle "11.290322580645162" (some 270) "Cycles",
    .text ⟨p.area.left + p.area.width.tdiv 2, p.area.bottom + 90⟩ "-0.5ex" .middle "11.290322580645162"
      (some 90) "Commits (most recent on left)" ]

/-- A straight black line of an axis. -/
def stroke (a b : Point) : Element := .polyline Svg.black 1 [a, b]

def verticalAxis (values : List Float) : List Element :=
  let left := p.area.left
  stroke ⟨left - 1, p.area.top⟩ ⟨left - 1, p.area.bottom - 1⟩ ::
    values.flatMap fun v =>
      [ .text ⟨left - 10, p.y v⟩ "0.5ex" .finish "9.67741935483871" none (Decimal.whole v),
        stroke ⟨left - 6, p.y v⟩ ⟨left - 1, p.y v⟩ ]

def horizontalAxis (labels : List String) (values : List Float) : List Element :=
  let bottom := p.area.bottom
  stroke ⟨p.area.left, bottom⟩ ⟨p.area.right - 1, bottom⟩ ::
    values.flatMap fun v =>
      [ .text ⟨p.x v, bottom + 10⟩ "0.76em" .middle "11.290322580645162" (some 90) (commitLabel labels v),
        stroke ⟨p.x v, bottom⟩ ⟨p.x v, bottom + 5⟩ ]

/-- Grid and axes around the data; `columns` asks for grid lines at the commits, too. -/
def axes (labels : List String) (columns : Bool) : List Element :=
  let n := labels.length
  let fineColumns := if columns then ticks p.horizontal (10 * n) else []
  let coarseColumns := if columns then ticks p.horizontal n else []
  let coarseRows := ticks p.vertical 11
  p.verticalLines "0.1" fineColumns ++ p.horizontalLines "0.1" (ticks p.vertical 110) ++ descriptions p ++
    p.verticalLines "0.2" coarseColumns ++ p.horizontalLines "0.2" coarseRows ++ p.verticalAxis coarseRows ++
    p.horizontalAxis labels (ticks p.horizontal n)

end Plot

end CommitCharts.Chart
