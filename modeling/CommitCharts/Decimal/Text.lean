import CommitCharts.Decimal.Shortest

/-!
# CommitCharts.Decimal.Text — written forms of floats

Messages write a float with its shortest digits and no exponent; JSON messages use an exponent for very
small and very large numbers; axis labels hold no digits after the point.
-/

namespace CommitCharts.Decimal

/-- The digits around the decimal point, without an exponent. -/
def Digits.positional (d : Digits) : List Char :=
  if d.point ≤ 0 then ['0', '.'] ++ List.replicate (-d.point).toNat '0' ++ d.digits
  else
    let n := d.point.toNat
    if d.digits.length ≤ n then d.digits ++ List.replicate (n - d.digits.length) '0'
    else d.digits.take n ++ '.' :: d.digits.drop n

/-- The text with a point in it. -/
def withPoint (cs : List Char) : List Char := if cs.contains '.' then cs else cs ++ ['.', '0']

/-- A sign and the digits. -/
def exponent (n : Int) : List Char := (if n < 0 then '-' else '+') :: Nat.toDigits 10 n.natAbs

/-- A sign and at least two digits. -/
def paddedExponent (n : Int) : List Char :=
  let ds := Nat.toDigits 10 n.natAbs
  (if n < 0 then '-' else '+') :: (if ds.length < 2 then '0' :: ds else ds)

/-- One digit, the others behind a point, and the exponent. -/
def Digits.scientific (d : Digits) : List Char :=
  match d.digits with
  | [] => ['0']
  | [c] => c :: 'e' :: exponent (d.point - 1)
  | c :: cs => c :: '.' :: cs ++ 'e' :: exponent (d.point - 1)

def signed (negative : Bool) (cs : List Char) : List Char := if negative then '-' :: cs else cs

/-- The shortest digits that read back, never with an exponent: `1.5`, `100`, `-0`. -/
def plain (x : Float) : String :=
  match Binary64.ofFloat x with
  | .nan => "NaN"
  | .infinite negative => String.ofList (signed negative "inf".toList)
  | .finite negative m e =>
    String.ofList (signed negative (if m = 0 then ['0'] else (shortest m e).positional))

/-- As `plain`, with a point in every finite number: `1.5`, `100.0`, `-0.0`. -/
def pointed (x : Float) : String :=
  if x.isFinite then String.ofList (withPoint (plain x).toList) else plain x

/-- The shortest digits that read back, with an exponent below `1e-5` and from `1e16` on. -/
def compact (x : Float) : String :=
  match Binary64.ofFloat x with
  | .finite negative m e =>
    if m = 0 then pointed x
    else
      let d := shortest m e
      if -5 ≤ d.point - 1 ∧ d.point - 1 ≤ 15 then pointed x
      else String.ofList (signed negative d.scientific)
  | _ => plain x

/-- No digits after the point; the sign stays on a number that rounds to zero. -/
def whole (x : Float) : String :=
  match Binary64.ofFloat x with
  | .finite negative m e => String.ofList (signed negative (Nat.toDigits 10 (roundWhole m e)))
  | _ => plain x

end CommitCharts.Decimal
