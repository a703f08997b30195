import CommitCharts.Chart.Axes
import CommitCharts.Series

/-!
# CommitCharts.Chart.Overview — all tests side by side

At every commit stands a cluster of bars, one for each test of the catalog, around the commit's position.  A
legend in the upper right corner names the tests.
-/

namespace CommitCharts.Chart.Overview

open Axis (Range)
open Svg (Element Point)

/-- A bar from zero up to a value. -/
structure Bar where
  left : Float
  right : Float
  value : Float

def barWidth (tests : Nat) : Float :=
  let shared := 0.8 / Float.ofNat (max tests 1)
  if shared < 0.15 then shared else 0.15

/-- The middle of the `i`-th of `tests` bars, seen from the position of the commit. -/
def offset (tests i : Nat) : Float :=
  (Float.ofNat i - Float.ofNat (tests - 1) / 2.0) * barWidth tests

def bar (tests i commit : Nat) (cycles : UInt64) : Bar :=
  let x := Float.ofNat commit + offset tests i
  ⟨x - barWidth tests / 2.0, x + barWidth tests / 2.0, cycles.toFloat⟩

/-- The bars of the `i`-th test, one for each shown commit. -/
def bars (s : Series) (catalog : Catalog) (i : Nat) (t : Test) : List Bar :=
  (s.values t.id).zipIdx.map fun v => bar catalog.size i v.2 v.1

/-- The vertical range over the values of all tests. -/
def range (s : Series) (catalog : Catalog) : Range := Axis.overview (catalog.ids.flatMap s.values)

def drawBar (p : Plot) (color : Rgb) (b : Bar) : Element :=
  box (p.point b.left 0.0) (p.point b.right b.value) "0.8" (some color) none

/-- Pixels for a label of the legend, estimated from its bytes. -/
def labelWidth (label : String) : Int :=
  (12.0 / 1.24 / 1.24 * 0.7 * Float.ofNat label.utf8ByteSize).round.toInt32.toInt

def legend (a : Area) (labels : List String) (colors : List Rgb) : List Element :=
  let width := (labels.map labelWidth).foldl max 0 + 50
  let height := 15 * ((labels.length : Int) - 1) + 10 + 20
  let height := if labels.isEmpty then 20 else height
  let corner : Point := ⟨a.left + (a.width - width - 5), a.top + 5⟩
  let place (dx dy : Int) : Point := a.clamp ⟨corner.x + dx, corner.y + dy⟩
  let text := place 40 10
  [ box (place 0 0) (place width height) "0.9" (some Svg.white) none,
    box (place 0 0) (place width height) "1" none (some Svg.black) ] ++
  labels.zipIdx.map (fun l =>
    .text ⟨text.x, text.y + 15 * l.2⟩ "0.76em" .start "9.67741935483871" none l.1) ++
  colors.zipIdx.map (fun c =>
    box (place 10 (10 + 15 * c.2)) (place 25 (20 + 15 * c.2)) "0.8" (some c.1) none)

def draw (s : Series) (catalog : Catalog) (title : String) (style : LegendStyle) (size : Size) :
    Svg.Drawing :=
  let area := Area.below 52 size
  let p : Plot := ⟨area, commitRange s.size, range s catalog⟩
  { width := size.width, height := size.height,
    elements :=
      box ⟨0, 0⟩ ⟨size.width.toNat, size.height.toNat⟩ "1" (some Svg.white) none ::
      .text ⟨20 + ((size.width.toNat : Int) - 40).tdiv 2, 25⟩ "0.76em" .middle "22.580645161290324" none title ::
      p.axes s.labels false ++
      catalog.tests.zipIdx.flatMap (fun t => (bars s catalog t.2 t.1).map (drawBar p t.1.color)) ++
      legend area (catalog.tests.map style.label) (catalog.tests.map (·.color)) }

end CommitCharts.Chart.Overview
