/-!
# CommitCharts.Text.Radix — whole numbers in text

Digits up to a radix of sixteen, letters in either case.
-/

namespace CommitCharts.Text

/-- The value of a digit below the radix. -/
def digit? (radix : Nat) (c : Char) : Option Nat :=
  let value :=
    if '0' ≤ c ∧ c ≤ '9' then c.toNat - 48
    else if 'a' ≤ c ∧ c ≤ 'f' then c.toNat - 87
    else if 'A' ≤ c ∧ c ≤ 'F' then c.toNat - 55
    else 16
  if value < radix then some value else none

/-- The number that digits continue. -/
def appendDigits? (radix n : Nat) : List Char → Option Nat
  | [] => some n
  | c :: cs => (digit? radix c).bind fun d => appendDigits? radix (radix * n + d) cs

/-- The number of a text that holds digits only, and one at least. -/
def number? (radix : Nat) (cs : List Char) : Option Nat :=
  if cs.isEmpty then none else appendDigits? radix 0 cs

end CommitCharts.Text
