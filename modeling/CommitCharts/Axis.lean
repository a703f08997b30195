/-!
# CommitCharts.Axis — vertical ranges of the charts

The overview starts at zero and leaves a tenth of the largest value above it; a trend leaves a tenth of its
spread on both sides.  Where that would give an empty range, one unit takes its place.
-/

namespace CommitCharts.Axis

/-- A range of values from `lo` to `hi`. -/
structure Range where
  lo : Float
  hi : Float

def overview (values : List UInt64) : Range :=
  let upper := (values.max?.getD 0).toFloat * 1.1
  if 0 < upper then ⟨0, upper⟩ else ⟨0, 1⟩

/-- The room left on each side of a trend between `lo` and `hi`. -/
def padding (lo hi : Float) : Float :=
  if lo < hi then (hi - lo) * 0.1
  else if 0 < hi then hi * 0.1
  else 1

def trend (values : List UInt64) : Range :=
  match values.min?, values.max? with
  | some lo, some hi =>
    let lo := lo.toFloat
    let hi := hi.toFloat
    ⟨lo - padding lo hi, hi + padding lo hi⟩
  | _, _ => ⟨-1, 1⟩

/-- Only a finite range that is not empty can carry a chart. -/
def Range.isProper (r : Range) : Bool := r.lo.isFinite && r.hi.isFinite && r.lo < r.hi

end CommitCharts.Axis
