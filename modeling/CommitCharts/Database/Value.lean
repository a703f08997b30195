import CommitCharts.Database.Number

/-!
# CommitCharts.Database.Value — what a column keeps of a value

A column has an affinity.  A text column turns numbers into text.  An integer column turns text that is a
well-formed number into one, and a float that is a whole number into an integer; other text, other floats
and blobs stay what they are.
-/

namespace CommitCharts.Database

inductive Value where
  | null
  | integer (n : Int64)
  | real (x : Float)
  | text (s : String)
  /-- Text whose bytes are not well-formed. -/
  | malformed (bytes : List UInt8)
  | blob (bytes : List UInt8)
  deriving Repr

/-- A value of a text column. -/
inductive TextCell where
  | null
  | text (s : String)
  | malformed (bytes : List UInt8)
  | blob (bytes : List UInt8)
  deriving DecidableEq, Repr

/-- The name of a kind of value in messages. -/
def Value.typeName : Value → String
  | .null => "Null"
  | .integer _ => "Integer"
  | .real _ => "Real"
  | .text _ | .malformed _ => "Text"
  | .blob _ => "Blob"

def TextCell.toValue : TextCell → Value
  | .null => .null
  | .text s => .text s
  | .malformed b => .malformed b
  | .blob b => .blob b

def textBytes (s : String) : List UInt8 := s.toUTF8.data.toList

/-- The text of some bytes. -/
def Value.ofTextBytes (bytes : List UInt8) : Value :=
  match String.fromUTF8? ⟨bytes.toArray⟩ with
  | some s => .text s
  | none => .malformed bytes

/-- Null comes first, then texts, then blobs, each by their bytes. -/
def TextCell.key : TextCell → Nat × List UInt8
  | .null => (0, [])
  | .text s => (1, textBytes s)
  | .malformed b => (1, b)
  | .blob b => (2, b)

instance : Ord TextCell where
  compare a b := (compare a.key.1 b.key.1).then (compare a.key.2 b.key.2)

/-- The value that a text column keeps. -/
def Value.asText : Value → TextCell
  | .null => .null
  | .integer n => .text (toString n)
  | .real x => .text (realText x)
  | .text s => .text s
  | .malformed b => .malformed b
  | .blob b => .blob b

/-- The integer that a float is equal to, strictly between the ends of the 64-bit range. -/
def wholeNumber? (x : Float) : Option Int64 :=
  match Decimal.Binary64.ofFloat x with
  | .finite negative m e =>
    let magnitude := Decimal.scaleUp m e / Decimal.scaleDown e
    if Decimal.scaleUp m e % Decimal.scaleDown e = 0 ∧ magnitude < Nat.pow 2 63 then
      some (Int64.ofInt (if negative then -magnitude else magnitude))
    else none
  | _ => none

def ofReal (x : Float) : Value :=
  match wholeNumber? x with
  | some n => .integer n
  | none => .real x

/-- The blanks that may stand around a number. -/
def isSpace (c : Char) : Bool := c = ' ' || ('\t' ≤ c && c ≤ '\r')

/-- The number that a text stands for. -/
def number? (s : String) : Option Value :=
  let cs := Text.dropEndWhile isSpace (s.toList.dropWhile isSpace)
  (Decimal.Numeral.ofChars? cs).map fun n =>
    if n.isInteger && Int64.minValue.toInt ≤ n.toInt && n.toInt ≤ Int64.maxValue.toInt then
      .integer (Int64.ofInt n.toInt)
    else ofReal (realOfNumeral n)

/-- The value that an integer column keeps. -/
def Value.asInteger : Value → Value
  | .real x => ofReal x
  | .text s => (number? s).getD (.text s)
  | v => v

end CommitCharts.Database
