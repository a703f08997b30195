import CommitCharts.Database.Image.Row
import CommitCharts.Database.Sql.Expr
import CommitCharts.Text.Blank

/-!
# CommitCharts.Database.Sql.Compare — affinity and the order of values

Null comes before numbers, numbers before texts and texts before blobs.  Integers and floats compare by their exact
values, texts by a collation.  Before two values are compared, the affinity of one side may change the other.
-/

namespace CommitCharts.Database.Sql

open Decimal

/-- The number `numerator / 2 ^ bits`. -/
structure Dyadic where
  numerator : Int
  bits : Nat

namespace Dyadic

def ofInt (n : Int) : Dyadic := ⟨n, 0⟩

/-- The value of a float.  The infinite ones stand beyond all others. -/
def ofFloat (x : Float) : Dyadic :=
  let signed (negative : Bool) (n : Nat) : Int := if negative then -(n : Int) else n
  match Binary64.ofFloat x with
  | .finite negative m e => ⟨signed negative (scaleUp m e), (-e).toNat⟩
  | .infinite negative => ⟨signed negative (Nat.pow 2 1024), 0⟩
  | .nan => ⟨0, 0⟩

def compare (a b : Dyadic) : Ordering :=
  Ord.compare (a.numerator * (Nat.pow 2 b.bits : Nat)) (b.numerator * (Nat.pow 2 a.bits : Nat))

end Dyadic

/-- The value of a number. -/
def dyadic? : Value → Option Dyadic
  | .integer n => some (.ofInt n.toInt)
  | .real x => some (.ofFloat x)
  | _ => none

/-- The place of a kind of value among the others. -/
def rank : Value → Nat
  | .null => 0
  | .integer _ | .real _ => 1
  | .text _ | .malformed _ => 2
  | .blob _ => 3

def lowerByte (b : UInt8) : UInt8 := if 65 ≤ b && b ≤ 90 then b + 32 else b

/-- The bytes of a text or a blob, those of text in UTF-8. -/
def bytesOf : Value → List UInt8
  | .text s => textBytes s
  | .malformed b | .blob b => b
  | _ => []

/-- What a collation compares of a text: bytes, and a number for texts that agree in them.  Without regard to case a
text counts up to its first zero. -/
def Collation.key (c : Collation) (e : Encoding) (v : Value) : List UInt8 × Nat :=
  match c, v with
  | .binary, .text s | .unknown _, .text s => (e.ofText s, 0)
  | .binary, v | .unknown _, v => (bytesOf v, 0)
  | .noCase, v => (((bytesOf v).takeWhile (· ≠ 0)).map lowerByte, (bytesOf v).length)
  | .trimmed, v => (Text.dropEndWhile (· == 32) (bytesOf v), 0)

def compareTexts (e : Encoding) (c : Collation) (a b : Value) : Ordering :=
  (compare (c.key e a).1 (c.key e b).1).then (compare (c.key e a).2 (c.key e b).2)

/-- The order of values. -/
def compareValues (e : Encoding) (c : Collation) (a b : Value) : Ordering :=
  match dyadic? a, dyadic? b with
  | some x, some y => x.compare y
  | _, _ =>
    (compare (rank a) (rank b)).then
      (if rank a = 2 then compareTexts e c a b else compare (bytesOf a) (bytesOf b))

/-! ### Affinity -/

def isNumeric (a : Affinity) : Bool := a == .numeric || a == .integer || a == .real

/-- A number as a float. -/
def asReal : Value → Value
  | .integer n => .real n.toFloat
  | v => v

/-- The value that an affinity makes of a value. -/
def Affinity.apply (a : Affinity) (v : Value) : Value :=
  match a with
  | .none | .blob => v
  | .text => v.asText.toValue
  | .numeric | .integer => v.asInteger
  | .real => asReal v.asInteger

/-- The affinity with which the values of two sides are compared. -/
def comparisonAffinity (a b : Affinity) : Affinity :=
  if a = .none then b
  else if b = .none then a
  else if isNumeric a || isNumeric b then .numeric
  else .blob

/-- Two values as they are compared under an affinity: texts turn into numbers under a numeric one, and a number
turns into text if the affinity is that of texts and the other side is one. -/
def coerce (affinity : Affinity) (a b : Value) : Value × Value :=
  if isNumeric affinity then (a.asInteger, b.asInteger)
  else if affinity = .text ∧ (rank a = 2 ∨ rank b = 2) then (a.asText.toValue, b.asText.toValue)
  else (a, b)

end CommitCharts.Database.Sql
