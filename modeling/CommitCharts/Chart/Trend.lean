import CommitCharts.Chart.Axes
import CommitCharts.Series

/-!
# CommitCharts.Chart.Trend — one test over the commits

A line through the values of a test, with a dot at every commit, under a title of one or two lines.
-/

namespace CommitCharts.Chart.Trend

open Axis (Range)
open Svg (Element Point)

/-- The title is the name of the test; a single bracketed part goes to a second line. -/
def titleLines (name : String) : List String :=
  match name.toList.dropWhile (· ≠ '(') with
  | _ :: tail =>
    if tail.contains '(' then [name]
    else [String.ofList (Text.trimChars (name.toList.takeWhile (· ≠ '('))), String.ofList ('(' :: tail)]
  | [] => [name]

def range (s : Series) (t : Test) : Range := Axis.trend (s.values t.id)

/-- Position and value of every shown commit. -/
def points (s : Series) (t : Test) : List (Float × Float) :=
  (s.values t.id).zipIdx.map fun v => (Float.ofNat v.2, v.1.toFloat)

def draw (s : Series) (t : Test) (size : Size) : Svg.Drawing :=
  let lines := titleLines t.name
  let area := Area.below (20 + 34 * lines.length + 20) size
  let p : Plot := ⟨area, commitRange s.size, range s t⟩
  let marks := (points s t).map fun v => p.point v.1 v.2
  { width := size.width, height := size.height,
    elements :=
      box ⟨0, 0⟩ ⟨size.width.toNat, size.height.toNat⟩ "1" (some Svg.white) none ::
      lines.zipIdx.map (fun l =>
        .text ⟨(size.width.toNat : Int).tdiv 2, 10 + 34 * l.2⟩ "0.76em" .middle "22.580645161290324" none l.1) ++
      p.axes s.labels true ++
      .polyline t.color 2 marks :: marks.map fun c => .circle c 5 t.color }

end CommitCharts.Chart.Trend
