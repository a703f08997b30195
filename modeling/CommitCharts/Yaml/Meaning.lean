import CommitCharts.Decimal.Reader
import CommitCharts.Text.Radix
import CommitCharts.Yaml.Scalar

/-!
# CommitCharts.Yaml.Meaning — what scalars mean

A plain scalar without a tag is null, a boolean, a number or else a text, by its spelling alone.  The standard
tags of these kinds ask for a spelling of the kind; any other scalar is a text.
-/

namespace CommitCharts.Yaml

inductive Meaning where
  | null
  | boolean (b : Bool)
  | integer (n : Int)
  | float (x : Float)
  | text (s : String)

/-- What a tag asks for. -/
inductive Kind where
  | null
  | boolean
  | integer
  | float
  deriving DecidableEq, Repr

namespace Kind

def ofTag? (tag : String) : Option Kind :=
  if tag = "tag:yaml.org,2002:null" then some .null
  else if tag = "tag:yaml.org,2002:bool" then some .boolean
  else if tag = "tag:yaml.org,2002:int" then some .integer
  else if tag = "tag:yaml.org,2002:float" then some .float
  else none

/-- The kind in messages. -/
def phrase : Kind → String
  | .null => "null"
  | .boolean => "a boolean"
  | .integer => "an integer"
  | .float => "a float"

end Kind

namespace Meaning

/-- More than one digit and a zero first, perhaps behind a sign: no number. -/
def isPadded (cs : List Char) : Bool :=
  let ds := if cs.head? == some '-' || cs.head? == some '+' then cs.drop 1 else cs
  1 < ds.length && ds.head? == some '0' && ds.all Char.isDigit

/-- Digits, or digits behind the mark of another radix. -/
def magnitude? : List Char → Option Nat
  | '0' :: 'x' :: cs => Text.number? 16 cs
  | '0' :: 'o' :: cs => Text.number? 8 cs
  | '0' :: 'b' :: cs => Text.number? 2 cs
  | cs => if isPadded cs then none else Text.number? 10 cs

/-- A number without a minus sign. -/
def unsigned? : List Char → Option Nat
  | '+' :: cs => magnitude? cs
  | cs => magnitude? cs

/-- An integer of at most 128 bits. -/
def integer? (cs : List Char) : Option Int :=
  match cs with
  | '-' :: ds => (magnitude? ds).bind fun n => if n ≤ Nat.pow 2 127 then some (-(n : Int)) else none
  | _ => (unsigned? cs).bind fun n => if n < Nat.pow 2 128 then some (n : Int) else none

/-- The value of a finite number. -/
def finite? (cs : List Char) : Option Float :=
  match Decimal.Numeral.ofChars? cs with
  | some n => if n.toFloat.isFinite then some n.toFloat else none
  | none => none

def float? (cs : List Char) : Option Float :=
  let s := String.ofList cs
  let unsigned := match cs with
    | '+' :: r => if r.head? == some '+' || r.head? == some '-' then none else some r
    | _ => some cs
  match unsigned with
  | none => none
  | some r =>
    if [".inf", ".Inf", ".INF"].contains (String.ofList r) then some (1.0 / 0.0)
    else if ["-.inf", "-.Inf", "-.INF"].contains s then some (-1.0 / 0.0)
    else if [".nan", ".NaN", ".NAN"].contains s then some (0.0 / 0.0)
    else finite? r

def boolean? (s : String) : Option Bool :=
  if ["true", "True", "TRUE"].contains s then some true
  else if ["false", "False", "FALSE"].contains s then some false
  else none

def isNull (s : String) : Bool := ["null", "Null", "NULL", "~"].contains s

/-- A plain scalar by its spelling. -/
def ofPlain (s : String) : Meaning :=
  let cs := s.toList
  if s.isEmpty || isNull s then .null
  else match boolean? s with
    | some b => .boolean b
    | none =>
      match integer? cs with
      | some n => .integer n
      | none =>
        if isPadded cs then .text s
        else match float? cs with
          | some x => .float x
          | none => .text s

/-- A text as the kind that a tag asks for. -/
def ofKind? (k : Kind) (s : String) : Option Meaning :=
  match k with
  | .null => if isNull s then some .null else none
  | .boolean => (boolean? s).map .boolean
  | .integer => (integer? s.toList).map .integer
  | .float => (float? s.toList).map .float

end Meaning

/-- What a scalar means; an error gives the kind that its tag asks for and its text does not spell. -/
def Scalar.meaning (s : Scalar) : Except Kind Meaning :=
  match s.tag with
  | none => .ok (if s.style = .plain then .ofPlain s.text else .text s.text)
  | some tag =>
    match Kind.ofTag? tag with
    | some k =>
      match Meaning.ofKind? k s.text with
      | some m => .ok m
      | none => .error k
    | none => .ok (if s.style = .plain ∧ tag.startsWith "!" then .ofPlain s.text else .text s.text)

/-- The scalar may be read as a number: it is plain, or a literal block that is tagged as one. -/
def Scalar.isNumeric (s : Scalar) : Bool :=
  s.style == .plain || (s.style == .literal && s.tag == some "tag:yaml.org,2002:int")

/-- The scalar as a number from zero on, of at most 64 bits. -/
def Scalar.natural? (s : Scalar) : Option Nat :=
  if s.isNumeric then (Meaning.unsigned? s.text.toList).filter (· < UInt64.size) else none

end CommitCharts.Yaml
