import CommitCharts.Decimal.Extended
import CommitCharts.Decimal.Reader
import CommitCharts.Decimal.Text

/-!
# CommitCharts.Database.Number — floats as text in a database

Between a float and its text stand powers of ten that are multiplied in one after the other, each product rounded
to sixty-four bits.  Text keeps fifteen digits; of a text at most the first nineteen or twenty digits count.
-/

namespace CommitCharts.Database

open Decimal

/-- A number and the power of ten that is still to be multiplied in. -/
structure Scaled where
  number : Extended
  power : Int

namespace Scaled

/-- Multiply `10 ^ k` into the number as long as the condition holds, at most `fuel` times. -/
def scaleWhile (p : Scaled → Bool) (k : Int) : Nat → Scaled → Scaled
  | 0, s => s
  | fuel + 1, s => if p s then scaleWhile p k fuel ⟨s.number * Extended.powerOfTen k, s.power - k⟩ else s

def below (k : Int) (s : Scaled) : Bool := s.number.less (Extended.powerOfTen k)

/-- Scale a number to between `10 ^ 17` and `10 ^ 19`, in steps of a hundred, ten and one powers of ten. -/
def toNineteen (s : Scaled) : Scaled :=
  if s.below 19 then
    scaleWhile (below 17) 1 20 (scaleWhile (below 7) 10 20 (scaleWhile (below (-97)) 100 20 s))
  else
    scaleWhile (!below 19 ·) (-1) 20
      (scaleWhile (!below 29 ·) (-10) 20 (scaleWhile (!below 119 ·) (-100) 20 s))

/-- Multiply in the whole power, in the same steps. -/
def complete (s : Scaled) : Extended :=
  let n := s.power.natAbs
  let done :=
    if 0 ≤ s.power then
      scaleWhile (1 ≤ ·.power) 1 10 (scaleWhile (10 ≤ ·.power) 10 10 (scaleWhile (100 ≤ ·.power) 100 n s))
    else
      scaleWhile (·.power ≤ -1) (-1) 10
        (scaleWhile (·.power ≤ -10) (-10) 10 (scaleWhile (·.power ≤ -100) (-100) n s))
  done.number

end Scaled

/-- The digits that text keeps of the positive number `m * 2 ^ e`: fifteen, half-way up. -/
def storedDigits (m : Nat) (e : Int) : Digits :=
  let s := Scaled.toNineteen ⟨Extended.ofBinary m e, 0⟩
  let v := s.number.floor
  let excess := (Nat.toDigits 10 v).length - 15
  let unit := Nat.pow 10 excess
  Digits.ofGrid ((2 * v + unit) / (2 * unit)) (s.power + excess)

/-- The text of a float, with a point in every number and an exponent below `1e-4` and from `1e15` on. -/
def realText (x : Float) : String :=
  match Binary64.ofFloat x with
  | .nan => "NaN"
  | .infinite negative => String.ofList (signed negative "Inf".toList)
  | .finite negative m e =>
    if m = 0 then "0.0"
    else
      let d := storedDigits m e
      if -4 ≤ d.point - 1 ∧ d.point - 1 ≤ 14 then String.ofList (signed negative (withPoint d.positional))
      else
        let mantissa := withPoint (Digits.positional ⟨d.digits, 1⟩)
        String.ofList (signed negative (mantissa ++ 'e' :: paddedExponent (d.point - 1)))

/-- From here on a significand takes in no more digits. -/
def fullSignificand : Nat := (UInt64.size - 10) / 10

/-- Take in the digits before the point.  Those that no longer fit still count as places. -/
def takeWhole (digits : List Char) (significand : Nat) (power : Int) : Nat × Int :=
  match digits with
  | [] => (significand, power)
  | c :: cs =>
    let n := 10 * significand + digitValue c
    if n < fullSignificand then takeWhole cs n power else (n, power + cs.length)

/-- Take in the digits behind the point.  Those that no longer fit are dropped. -/
def takeFraction (digits : List Char) (significand : Nat) (power : Int) : Nat × Int :=
  match digits with
  | [] => (significand, power)
  | c :: cs =>
    if significand < fullSignificand then takeFraction cs (10 * significand + digitValue c) (power - 1)
    else (significand, power)

/-- Move powers of ten into a significand with room for them, and out of one that ends in zeros. -/
def settle : Nat → Nat × Int → Nat × Int
  | 0, n => n
  | fuel + 1, n =>
    if 0 < n.2 ∧ n.1 < (UInt64.size - 1) / 10 then settle fuel (10 * n.1, n.2 - 1)
    else if n.2 < 0 ∧ n.1 % 10 = 0 then settle fuel (n.1 / 10, n.2 + 1)
    else n

/-- Exponents of six digits and more count as ten thousand. -/
def cappedExponent (e : Int) : Int :=
  if e.natAbs < 100000 then e else if e < 0 then -10000 else 10000

def largestFloat : Extended := ⟨Nat.pow 2 53 - 1, 971⟩

/-- The float of a written number. -/
def realOfNumeral (n : Numeral) : Float :=
  let (s, power) := takeWhole n.whole 0 0
  let (s, power) := takeFraction (n.fraction.getD []) s power
  let x :=
    if s = 0 then 0.0
    else
      let (s, power) := settle 20 (s, power + cappedExponent (n.exponent.getD 0))
      let r := (Scaled.mk (Extended.ofNat s) power).complete
      if largestFloat.less r then 1.0 / 0.0 else r.toFloat
  if n.negative then -x else x

end CommitCharts.Database
