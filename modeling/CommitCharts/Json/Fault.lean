import CommitCharts.Decimal.Text
import CommitCharts.Text.Quoted

/-!
# CommitCharts.Json.Fault — places in a text and what is wrong there

Lines count from one.  Columns count the bytes of the line before the place, so that the column of a fault behind
a character is that of the character counted from one.
-/

namespace CommitCharts.Json

structure Place where
  line : Nat := 1
  column : Nat := 0
  deriving DecidableEq, Repr, Inhabited

namespace Place

def advance (p : Place) (c : Char) : Place := if c = '\n' then ⟨p.line + 1, 0⟩ else ⟨p.line, p.column + c.utf8Size⟩

/-- The place behind the first byte of a character. -/
def afterByte (p : Place) (c : Char) : Place := if c = '\n' then ⟨p.line + 1, 0⟩ else ⟨p.line, p.column + 1⟩

/-- The place `n` bytes on. -/
def afterBytes (p : Place) (n : Nat) : List Char → Place
  | [] => p
  | c :: cs =>
    if c.utf8Size ≤ n then afterBytes (p.advance c) (n - c.utf8Size) cs else ⟨p.line, p.column + n⟩

/-- The place behind the first byte of the text that goes on here. -/
def peek (p : Place) : List Char → Place
  | [] => p
  | c :: _ => p.afterByte c

end Place

/-- A place and the text behind it. -/
structure Cursor where
  place : Place
  rest : List Char
  deriving DecidableEq, Repr

namespace Cursor

def drop (k : Cursor) (n : Nat) : Cursor := ⟨(k.rest.take n).foldl Place.advance k.place, k.rest.drop n⟩

def dropWhile (k : Cursor) (p : Char → Bool) : Cursor :=
  ⟨(k.rest.takeWhile p).foldl Place.advance k.place, k.rest.dropWhile p⟩

def isBlank (c : Char) : Bool := c == ' ' || c == '\n' || c == '\t' || c == '\r'

def skipBlank (k : Cursor) : Cursor := k.dropWhile isBlank

/-- The place of a fault in the next character. -/
def peek (k : Cursor) : Place := k.place.peek k.rest

end Cursor

/-- Why a text is no JSON. -/
inductive Malformed where
  | endOfList
  | endOfObject
  | endOfString
  | endOfValue
  | colonExpected
  | listEndExpected
  | objectEndExpected
  | wordExpected
  | valueExpected
  | badEscape
  | badNumber
  | numberTooLarge
  | controlCharacter
  | keyExpected
  | loneSurrogate
  | halfSurrogate
  | trailingComma
  | trailingCharacters
  deriving DecidableEq, Repr

def Malformed.message : Malformed → String
  | .endOfList => "EOF while parsing a list"
  | .endOfObject => "EOF while parsing an object"
  | .endOfString => "EOF while parsing a string"
  | .endOfValue => "EOF while parsing a value"
  | .colonExpected => "expected `:`"
  | .listEndExpected => "expected `,` or `]`"
  | .objectEndExpected => "expected `,` or `\x7d`"
  | .wordExpected => "expected ident"
  | .valueExpected => "expected value"
  | .badEscape => "invalid escape"
  | .badNumber => "invalid number"
  | .numberTooLarge => "number out of range"
  | .controlCharacter => "control character (\\u0000-\\u001F) found while parsing a string"
  | .keyExpected => "key must be a string"
  | .loneSurrogate => "lone leading surrogate in hex escape"
  | .halfSurrogate => "unexpected end of hex escape"
  | .trailingComma => "trailing comma"
  | .trailingCharacters => "trailing characters"

/-- What is found in a place. -/
inductive Found where
  | null
  | boolean (b : Bool)
  | integer (n : Int)
  | float (x : Float)
  | string (s : String)
  | sequence
  | map

def Found.phrase : Found → String
  | .null => "null"
  | .boolean b => String.join ["boolean `", toString b, "`"]
  | .integer n => String.join ["integer `", toString n, "`"]
  | .float x => String.join ["floating point `", Decimal.compact x, "`"]
  | .string s => "string " ++ Text.quoted s
  | .sequence => "sequence"
  | .map => "map"

/-- What is wrong in a place; `expected` says what is wanted there. -/
inductive Problem where
  | malformed (m : Malformed)
  | wrongType (found : Found) (expected : String)
  | outOfRange (found : Found) (expected : String)
  | wrongLength (length : Nat) (expected : String)
  | missingField (name : String)
  | duplicateField (name : String)

def Problem.message : Problem → String
  | .malformed m => m.message
  | .wrongType found expected => String.join ["invalid type: ", found.phrase, ", expected ", expected]
  | .outOfRange found expected => String.join ["invalid value: ", found.phrase, ", expected ", expected]
  | .wrongLength n expected => String.join ["invalid length ", toString n, ", expected ", expected]
  | .missingField name => String.join ["missing field `", name, "`"]
  | .duplicateField name => String.join ["duplicate field `", name, "`"]

structure Fault where
  problem : Problem
  place : Place

def Fault.message (f : Fault) : String :=
  String.join [f.problem.message, " at line ", toString f.place.line, " column ", toString f.place.column]

/-- The outcome of reading a part of a text. -/
abbrev Read (α : Type) := Except Fault α

def malformed {α : Type} (m : Malformed) (p : Place) : Read α := .error ⟨.malformed m, p⟩

end CommitCharts.Json
