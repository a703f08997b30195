import CommitCharts.Axis
import CommitCharts.Svg
import CommitCharts.Chart.Spec

/-!
# CommitCharts.Chart.Plot — from values to pixels

The plot area lies inside margins for the labels.  Commits stand one unit apart from each other, with half
a unit of room at both ends; values go up from the lower edge of the area.
-/

namespace CommitCharts.Chart

open Axis (Range)
open Svg (Point)

/-- The pixels of the plot: `right` and `bottom` are the first ones outside. -/
structure Area where
  left : Int
  top : Int
  right : Int
  bottom : Int
  deriving DecidableEq, Repr

namespace Area

/-- The area of a drawing below a head of the given height: 90 pixels for labels, margins of 20. -/
def below (head : Int) (size : Size) : Area :=
  { left := 110, top := head, right := size.width.toNat - 20, bottom := size.height.toNat - 110 }

def width (a : Area) : Int := a.right - a.left

def height (a : Area) : Int := a.bottom - a.top

def clamp (a : Area) (p : Point) : Point :=
  ⟨min (max p.x a.left) a.right, min (max p.y a.top) a.bottom⟩

end Area

/-- The pixel of a value, where `first` stands for the low end of the range and `last` for its high end. -/
def pixel (r : Range) (first last : Int) (v : Float) : Int :=
  let t := (v - r.lo) / (r.hi - r.lo)
  let length := last - first
  if 0 < length then first + (Float.ofInt length * t + 1e-3).floor.toInt32.toInt
  else if length < 0 then first + (Float.ofInt length * t - 1e-3).ceil.toInt32.toInt
  else last

/-- The horizontal range of `n` commits. -/
def commitRange (n : Nat) : Range := ⟨-0.5, Float.ofNat n - 0.5⟩

/-- A plot area with its two ranges. -/
structure Plot where
  area : Area
  horizontal : Range
  vertical : Range

namespace Plot

def x (p : Plot) (v : Float) : Int := pixel p.horizontal p.area.left (p.area.right - 1) v

def y (p : Plot) (v : Float) : Int := pixel p.vertical (p.area.bottom - 1) p.area.top v

/-- The pixel of a commit position and a value, kept inside the area. -/
def point (p : Plot) (u v : Float) : Point := p.area.clamp ⟨p.x u, p.y v⟩

end Plot

/-- The filled rectangle between two opposite corners. -/
def box (a b : Point) (opacity : String) (fill stroke : Option Rgb) : Svg.Element :=
  .rect ⟨min a.x b.x, min a.y b.y⟩ (max a.x b.x - min a.x b.x) (max a.y b.y - min a.y b.y) opacity fill stroke

end CommitCharts.Chart
