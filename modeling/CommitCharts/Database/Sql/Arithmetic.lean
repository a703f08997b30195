import CommitCharts.Database.Sql.Compare
import CommitCharts.Database.Sql.Token

/-!
# CommitCharts.Database.Sql.Arithmetic — values as numbers

Arithmetic goes by integers as long as both sides and the result are 64-bit integers, and by floats otherwise.  Of a
text the number at its start counts.  What is computed from null is null.
-/

namespace CommitCharts.Database.Sql

open Decimal

/-! ### Numbers from truth values and texts -/

def ofInt (n : Int) : Value :=
  if Int64.minValue.toInt ≤ n ∧ n ≤ Int64.maxValue.toInt then .integer (Int64.ofInt n) else .real (Float.ofInt n)

def ofFloat (x : Float) : Value := if x.isNaN then .null else .real x

def ofBool (b : Bool) : Value := .integer (if b then 1 else 0)

def ofTruth : Option Bool → Value
  | some b => ofBool b
  | none => .null

/-- The value of a numeral: an integer if it is written as one and is not too large. -/
def ofNumeral (n : Numeral) : Value :=
  if n.isInteger ∧ Int64.minValue.toInt ≤ n.toInt ∧ n.toInt ≤ Int64.maxValue.toInt then .integer (Int64.ofInt n.toInt)
  else ofFloat (realOfNumeral n)

/-- The value of a number as it is written, perhaps in base sixteen. -/
def literal (negative : Bool) (text : String) : Value :=
  match text.toList with
  | '0' :: 'x' :: digits =>
    let n := Int64.ofNat (digits.foldl (fun n c => 16 * n + (Token.hexDigit? c).getD 0) 0)
    .integer (if negative then -n else n)
  | cs => ((Numeral.ofChars? (if negative then '-' :: cs else cs)).map ofNumeral).getD .null

/-- The characters of a text up to the first that is not ASCII. -/
def asciiStart (bytes : List UInt8) : List Char := (bytes.takeWhile (· < 128)).map fun b => Char.ofNat b.toNat

/-- The sign at the start of a text, and what follows. -/
def splitSign (cs : List Char) : List Char × List Char :=
  match cs with
  | '-' :: r => (['-'], r)
  | '+' :: r => ([], r)
  | r => ([], r)

/-- The number at the start of a text; zero if there is none. -/
def numberAtStart (bytes : List UInt8) : Value :=
  let (sign, rest) := splitSign ((asciiStart bytes).dropWhile isSpace)
  ((Numeral.ofChars? (sign ++ (Token.takeNumber.decimal rest).1)).map ofNumeral).getD (.integer 0)

/-- A value as a number. -/
def asNumber : Value → Value
  | .text s => numberAtStart (textBytes s)
  | .malformed b | .blob b => numberAtStart b
  | v => v

/-- A number as a float. -/
def toFloat : Value → Float
  | .integer n => n.toFloat
  | .real x => x
  | _ => 0.0

/-- The nearest integer of 64 bits to a whole number. -/
def saturate (n : Int) : Int64 := Int64.ofInt (max Int64.minValue.toInt (min n Int64.maxValue.toInt))

/-- The whole part of a value. -/
def toInteger (v : Value) : Int64 :=
  match v with
  | .integer n => n
  | .real x =>
    let d := Dyadic.ofFloat x
    saturate (d.numerator.tdiv (Nat.pow 2 d.bits : Nat))
  | v =>
    let (sign, rest) := splitSign ((asciiStart (bytesOf v)).dropWhile isSpace)
    let n : Int := ofDigits (rest.takeWhile isDigit)
    saturate (if sign.isEmpty then n else -n)

/-- Whether a value counts as true. -/
def truth? (v : Value) : Option Bool :=
  match asNumber v with
  | .integer n => some (n ≠ 0)
  | .real x => some (!(x == 0.0))
  | _ => none

/-! ### Operators on numbers -/

/-- Arithmetic with integers where it stays in range, and with floats otherwise. -/
def arithmetic (onInts : Int → Int → Int) (onFloats : Float → Float → Float) (a b : Value) : Value :=
  match asNumber a, asNumber b with
  | .integer m, .integer n =>
    match ofInt (onInts m.toInt n.toInt) with
    | .integer r => .integer r
    | _ => ofFloat (onFloats m.toFloat n.toFloat)
  | .null, _ | _, .null => .null
  | x, y => ofFloat (onFloats (toFloat x) (toFloat y))

def divide (a b : Value) : Value := if toFloat (asNumber b) == 0.0 then .null else arithmetic Int.tdiv (· / ·) a b

/-- The remainder of the whole parts. -/
def modulo (a b : Value) : Value :=
  match asNumber a, asNumber b with
  | .null, _ | _, .null => .null
  | x, y =>
    if toInteger y = 0 then .null
    else
      let r := (toInteger x).toInt.tmod (toInteger y).toInt
      match x, y with
      | .integer _, .integer _ => ofInt r
      | _, _ => .real (Float.ofInt r)

def onBits (f : Int64 → Int64 → Int64) (a b : Value) : Value :=
  match a, b with
  | .null, _ | _, .null => .null
  | a, b => .integer (f (toInteger (asNumber a)) (toInteger (asNumber b)))

/-- A shift to the left; by a negative number of bits, to the right. -/
def shiftLeft (a b : Int64) : Int64 :=
  let n := b.toInt
  if 0 ≤ n then (if 64 ≤ n then 0 else Int64.ofInt (a.toInt * (Nat.pow 2 n.toNat : Nat)))
  else if n ≤ -64 then (if a < 0 then -1 else 0)
  else Int64.ofInt (a.toInt.fdiv (Nat.pow 2 n.natAbs : Nat))

def negate (v : Value) : Value :=
  match asNumber v with
  | .integer n => match ofInt (-n.toInt) with
    | .integer m => .integer m
    | _ => .real (-n.toFloat)
  | .real x => .real (-x)
  | _ => .null

end CommitCharts.Database.Sql
