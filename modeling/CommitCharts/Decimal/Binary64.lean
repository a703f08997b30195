/-!
# CommitCharts.Decimal.Binary64 — the exact value of a 64-bit float

A finite float is a sign and a natural number times a power of two.
-/

namespace CommitCharts.Decimal

inductive Binary64 where
  | nan
  | infinite (negative : Bool)
  /-- The number `m * 2 ^ e`, or its negative. -/
  | finite (negative : Bool) (m : Nat) (e : Int)
  deriving DecidableEq, Repr

def Binary64.ofFloat (x : Float) : Binary64 :=
  let bits : Nat := x.toBits.toNat
  let negative := decide (Nat.pow 2 63 ≤ bits)
  let field : Nat := bits / Nat.pow 2 52 % Nat.pow 2 11
  let fraction : Nat := bits % Nat.pow 2 52
  if field = 2047 then
    if fraction = 0 then .infinite negative else .nan
  else if field = 0 then .finite negative fraction (-1074)
  else .finite negative (Nat.pow 2 52 + fraction) (field - 1075)

/-- Numerator of `m * 2 ^ e` over `scaleDown e`. -/
def scaleUp (m : Nat) (e : Int) : Nat := m * Nat.pow 2 e.toNat

def scaleDown (e : Int) : Nat := Nat.pow 2 (-e).toNat

/-- The quotient rounded to a whole number, half-way to the even one. -/
def roundQuotient (num den : Nat) : Nat :=
  let q := num / den
  let r := num % den
  if 2 * r < den ∨ (2 * r = den ∧ q % 2 = 0) then q else q + 1

end CommitCharts.Decimal
