/-!
# CommitCharts.Decimal.Reader — decimal numbers in text

A number in text is an optional sign, digits with at most one point among them, and an optional exponent.  Its
float is the one nearest to its exact value.
-/

namespace CommitCharts.Decimal

def isDigit (c : Char) : Bool := '0' ≤ c && c ≤ '9'

def digitValue (c : Char) : Nat := c.toNat - '0'.toNat

/-- The value of decimal digits. -/
def ofDigits (cs : List Char) : Nat := cs.foldl (fun n c => 10 * n + digitValue c) 0

/-- The float nearest to `m * 10 ^ e`, infinite when it is too large. -/
def nearestFloat (m : Nat) (e : Int) : Float :=
  let magnitude := e + (Nat.toDigits 10 m).length
  if m = 0 ∨ magnitude < -400 then 0.0
  else if 400 < magnitude then 1.0 / 0.0
  else if e < 0 then Float.ofScientific m true e.natAbs
  else Float.ofScientific m false e.toNat

/-- A decimal number as written: sign, digits before and after the point, and exponent, if given. -/
structure Numeral where
  negative : Bool
  whole : List Char
  fraction : Option (List Char)
  exponent : Option Int
  deriving DecidableEq, Repr

/-- A sign, and what follows it. -/
def takeSign : List Char → Bool × List Char
  | '-' :: cs => (true, cs)
  | '+' :: cs => (false, cs)
  | cs => (false, cs)

/-- The exponent at the start of the text; `none` if the text goes on otherwise. -/
def takeExponent : List Char → Option (Option Int × List Char)
  | c :: cs =>
    if c = 'e' || c = 'E' then
      let s := takeSign cs
      let ds := s.2.takeWhile isDigit
      if ds.isEmpty then none
      else
        let n : Int := ofDigits ds
        some (some (if s.1 then -n else n), s.2.dropWhile isDigit)
    else some (none, c :: cs)
  | [] => some (none, [])

/-- The whole text as a number with a digit at least. -/
def Numeral.ofChars? (cs : List Char) : Option Numeral :=
  let s := takeSign cs
  let whole := s.2.takeWhile isDigit
  let rest := s.2.dropWhile isDigit
  let fraction := match rest with
    | '.' :: r => some (r.takeWhile isDigit)
    | _ => none
  let rest := match rest with
    | '.' :: r => r.dropWhile isDigit
    | _ => rest
  if whole.isEmpty && (fraction.getD []).isEmpty then none
  else match takeExponent rest with
    | some (exponent, []) => some ⟨s.1, whole, fraction, exponent⟩
    | _ => none

/-- Digits only, perhaps behind a sign. -/
def Numeral.isInteger (n : Numeral) : Bool := n.fraction.isNone && n.exponent.isNone

def Numeral.toInt (n : Numeral) : Int :=
  if n.negative then -(ofDigits n.whole : Int) else ofDigits n.whole

def Numeral.toFloat (n : Numeral) : Float :=
  let fraction := n.fraction.getD []
  let x := nearestFloat (ofDigits (n.whole ++ fraction)) (n.exponent.getD 0 - fraction.length)
  if n.negative then -x else x

end CommitCharts.Decimal
