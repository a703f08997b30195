import CommitCharts.Axis

/-!
# CommitCharts.Chart.Ticks — round values on an axis

The distance between ticks is a power of ten, divided by 2, 5 or 10 for as long as no more ticks than
asked for fall into the range.
-/

namespace CommitCharts.Chart

open Axis (Range)

/-- Two to the power of -52, the distance from one to the next float. -/
def epsilon : Float := 1.0 / 4503599627370496.0

/-- What is left of `a` after whole multiples of `b`; zero where rounding leaves all of `b`. -/
def remainder (a b : Float) : Float :=
  let r := a - (a / b).floor * b
  if (r - b).abs < epsilon then 0.0 else r

/-- A distance between ticks and the unit to which the ticks are rounded. -/
structure Step where
  scale : Float
  grain : Float

/-- The first multiple of `d` in the range. -/
def firstTick (r : Range) (d : Float) : Float :=
  let left := r.lo - remainder r.lo d
  if left < r.lo then left + d else left

/-- The last multiple of `d` in the range. -/
def lastTick (r : Range) (d : Float) : Float := r.hi - remainder r.hi d

/-- Whether more than `limit` multiples of `old / k` fall into the range. -/
def isCrowded (r : Range) (limit : Nat) (old k : Float) : Bool :=
  let count := 1.0 + (lastTick r (old / k) - firstTick r (old / k)) / old * k
  limit < count.round.toUInt64.toNat

/-- Divide the distance by 2, 5 and 10 in turn.  The second component says whether all three fit. -/
def divide (r : Range) (limit : Nat) (old scale : Float) : List Float → Float × Bool
  | [] => (scale, true)
  | k :: ks => if isCrowded r limit old k then (scale, false) else divide r limit old (old / k) ks

/-- Refine the step by whole decades; every decade has ten times as many ticks, so `fuel` bounds them. -/
def refine (r : Range) (limit : Nat) : Nat → Step → Step
  | 0, s => s
  | fuel + 1, s =>
    match divide r limit s.scale s.scale [2.0, 5.0, 10.0] with
    | (scale, false) => { s with scale }
    | (_, true) => refine r limit fuel ⟨s.scale / 10.0, s.grain / 10.0⟩

/-- The largest power of ten not above the width of the range, or the next one if that is too fine. -/
def firstStep (r : Range) (limit : Nat) : Step :=
  let scale := Float.pow 10.0 ((r.hi - r.lo).log / (10.0 : Float).log).floor
  if limit < 1 + ((r.hi - r.lo) / scale).floor.toUInt64.toNat then ⟨scale * 10.0, scale / 10.0 * 10.0⟩
  else ⟨scale, scale / 10.0⟩

/-- The ticks from `base + offset` up to `last`.  A step that is lost in rounding never gets there; `fuel` ends such a
walk. -/
def collect (s : Step) (base last : Float) : Nat → Float → List Float
  | 0, _ => []
  | fuel + 1, offset =>
    if -epsilon ≤ last - offset - base then
      let offset := if (offset / s.grain).round * s.grain < 0.0 then offset + s.grain else offset
      (offset + base) :: collect s base last fuel (offset + s.scale)
    else []

/-- At most about `limit` round values in the range, in ascending order.  The fuel is far more than the steps that get
from one end of the range to the other. -/
def ticks (r : Range) (limit : Nat) : List Float :=
  if limit = 0 then []
  else
    let s := refine r limit (limit + 64) (firstStep r limit)
    let left := firstTick r s.scale
    let base := (left / s.grain).floor * s.grain
    collect s base (lastTick r s.scale) (4 * limit + 64) (left - base)

end CommitCharts.Chart
