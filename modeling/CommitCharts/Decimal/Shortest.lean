import CommitCharts.Decimal.Binary64
import CommitCharts.Text.Blank

/-!
# CommitCharts.Decimal.Shortest — decimal digits of a float

The shortest digits are the fewest that still read back as the same float: on the coarsest decimal grid
with a point inside the interval of numbers that round to the float, the point nearest to it.  Digits
rounded to a fixed count are computed from the same exact value.
-/

namespace CommitCharts.Decimal

/-- The number `0.d₁d₂…dₙ * 10 ^ point`, without trailing zeros. -/
structure Digits where
  digits : List Char
  point : Int
  deriving DecidableEq, Repr

/-- A number and the ends of the interval that rounds to it, all over one denominator. -/
structure Span where
  low : Nat
  mid : Nat
  high : Nat
  den : Nat
  /-- Whether the ends belong to the interval. -/
  closed : Bool

namespace Span

/-- The interval of `m * 2 ^ e`; below a power of two its lower half is half as wide. -/
def ofBinary (m : Nat) (e : Int) : Span :=
  let below := if m = Nat.pow 2 52 ∧ -1074 < e then 1 else 2
  { low := scaleUp (4 * m - below) (e - 2), mid := scaleUp (4 * m) (e - 2),
    high := scaleUp (4 * m + 2) (e - 2), den := scaleDown (e - 2), closed := m % 2 == 0 }

/-- The power of ten above the number: it lies between `10 ^ (k - 1)` and `10 ^ k`. -/
def magnitude (s : Span) : Int := (Nat.toDigits 10 (s.mid * Nat.pow 10 400 / s.den)).length - 400

/-- The multiple of `10 ^ j` inside the interval that is nearest to the number, if there is one;
of two equally near ones the larger. -/
def onGrid? (s : Span) (j : Int) : Option Nat :=
  let up := Nat.pow 10 (-j).toNat
  let unit := s.den * Nat.pow 10 j.toNat
  let value := s.mid * up
  let c := value / unit
  let low := if s.closed then s.low * up ≤ c * unit else s.low * up < c * unit
  let high := if s.closed then (c + 1) * unit ≤ s.high * up else (c + 1) * unit < s.high * up
  if low then
    if high ∧ (c + 1) * unit - value ≤ value - c * unit then some (c + 1) else some c
  else if high then some (c + 1)
  else none

/-- The multiple of `10 ^ j` nearest to the number; half-way it is the larger one. -/
def nearest (s : Span) (j : Int) : Nat :=
  let unit := s.den * Nat.pow 10 j.toNat
  (2 * (s.mid * Nat.pow 10 (-j).toNat) + unit) / (2 * unit)

end Span

def Digits.ofGrid (c : Nat) (j : Int) : Digits :=
  let ds := Nat.toDigits 10 c
  ⟨Text.dropEndWhile (· == '0') ds, j + ds.length⟩

/-- The shortest digits of the positive number `m * 2 ^ e`; seventeen always suffice. -/
def shortest (m : Nat) (e : Int) : Digits :=
  let s := Span.ofBinary m e
  let grids := (List.range 17).map fun (n : Nat) => s.magnitude - 1 - n
  match grids.findSome? fun j => (s.onGrid? j).map (Digits.ofGrid · j) with
  | some d => d
  | none => Digits.ofGrid (s.nearest (s.magnitude - 17)) (s.magnitude - 17)

/-- `m * 2 ^ e` rounded to a whole number, half-way to the even one. -/
def roundWhole (m : Nat) (e : Int) : Nat :=
  roundQuotient (scaleUp m e) (scaleDown e)

end CommitCharts.Decimal
