import CommitCharts.Decimal.Binary64

/-!
# CommitCharts.Decimal.Extended — floats with sixty-four significant bits

Extended floats are what 64-bit floats are turned into while powers of ten are multiplied in.  Each operation
rounds its exact result to sixty-four bits, half-way to the even number.  Exponents have no bounds.
-/

namespace CommitCharts.Decimal

/-- The number of binary digits. -/
def bitLength (n : Nat) : Nat := if n = 0 then 0 else Nat.log2 n + 1

/-- The number `significand * 2 ^ exponent`, not negative. -/
structure Extended where
  significand : Nat
  exponent : Int
  deriving DecidableEq, Repr

namespace Extended

/-- `m * 2 ^ e` rounded to sixty-four bits. -/
def ofBinary (m : Nat) (e : Int) : Extended :=
  let excess := bitLength m - 64
  ⟨roundQuotient m (Nat.pow 2 excess), e + excess⟩

def ofNat (n : Nat) : Extended := ofBinary n 0

instance : Mul Extended where
  mul a b := ofBinary (a.significand * b.significand) (a.exponent + b.exponent)

/-- `10 ^ k` rounded. -/
def powerOfTen (k : Int) : Extended :=
  if 0 ≤ k then ofNat (Nat.pow 10 k.toNat)
  else
    let den := Nat.pow 10 k.natAbs
    let shift := bitLength den + 63
    let q := Nat.pow 2 shift / den
    let excess := bitLength q - 64
    ⟨roundQuotient (Nat.pow 2 shift) (den * Nat.pow 2 excess), (excess : Int) - shift⟩

/-- Whether `a` is less than `b`. -/
def less (a b : Extended) : Bool :=
  let e := min a.exponent b.exponent
  a.significand * Nat.pow 2 (a.exponent - e).toNat < b.significand * Nat.pow 2 (b.exponent - e).toNat

/-- The whole part. -/
def floor (a : Extended) : Nat := scaleUp a.significand a.exponent / scaleDown a.exponent

/-- The nearest 64-bit float, half-way to the one with an even significand. -/
def toFloat (a : Extended) : Float :=
  let place := max (a.exponent + bitLength a.significand - 53) (-1074)
  let shift := place - a.exponent
  let c := roundQuotient (scaleDown shift * a.significand) (Nat.pow 2 shift.toNat)
  let bits := (place + 1074).toNat * Nat.pow 2 52 + c
  Float.ofBits (min bits (2047 * Nat.pow 2 52)).toUInt64

end Extended

end CommitCharts.Decimal
