import CommitCharts.Decimal.Reader
import CommitCharts.Json.Fault
import CommitCharts.Text.Radix

/-!
# CommitCharts.Json.Scan — words, strings and numbers

Strings are read one character at a time.  Integers of at most 64 bits are exact; other numbers are floats made
of the leading digits that fit 64 bits and a power of ten, the product or quotient of which is rounded once.
-/

namespace CommitCharts.Json

/-- The rest of a word whose first letter was read. -/
def readWord (k : Cursor) : List Char → Read Cursor
  | [] => .ok k
  | e :: es =>
    match k.rest with
    | [] => malformed .endOfValue k.place
    | c :: _ => if c = e then readWord (k.drop 1) es else malformed .wordExpected k.peek

/-! ### Strings -/

/-- The character of a one-letter escape. -/
def escaped? (c : Char) : Option Char :=
  match c with
  | '"' => some '"'
  | '\\' => some '\\'
  | '/' => some '/'
  | 'b' => some '\x08'
  | 'f' => some '\x0c'
  | 'n' => some '\n'
  | 'r' => some '\r'
  | 't' => some '\t'
  | _ => none

def isControl (c : Char) : Bool := c.toNat < 0x20

/-- Four hexadecimal digits follow. -/
def checkCode (p : Place) (cs : List Char) : Read Unit :=
  if (String.ofList (cs.take 4)).utf8ByteSize < 4 then malformed .endOfString (cs.foldl Place.advance p)
  else if (cs.take 4).all fun c => (Text.digit? 16 c).isSome then .ok ()
  else malformed .badEscape (p.afterBytes 4 cs)

/-- What the characters before ask of the next one. -/
inductive Pending where
  | nothing
  /-- The letter of an escape. -/
  | letter
  /-- Digits of a code, so many and more than none; `high` is the first half of a pair before it. -/
  | code (high : Option Nat) (left value : Nat)
  /-- The backslash of the second half of a pair. -/
  | pair (high : Nat)
  /-- The letter of the second half of a pair. -/
  | pairLetter (high : Nat)
  deriving DecidableEq, Repr

/-- The character of a code, or the first half of a pair. -/
def decode (high : Option Nat) (code : Nat) (p : Place) : Read (Char ⊕ Nat) :=
  let isHigh := 0xD800 ≤ code && code < 0xDC00
  let isLow := 0xDC00 ≤ code && code < 0xE000
  match high with
  | none =>
    if isLow then malformed .loneSurrogate p
    else if isHigh then .ok (.inr code)
    else .ok (.inl (Char.ofNat code))
  | some h =>
    if isLow then .ok (.inl (Char.ofNat (0x10000 + 0x400 * (h - 0xD800) + (code - 0xDC00))))
    else malformed .loneSurrogate p

/-- Read on from within a string, up to and over the closing quote.  `reversed` is the text so far, last character
first. -/
def readChars (reversed : List Char) (s : Pending) (p : Place) : List Char → Read (List Char × Cursor)
  | [] => malformed .endOfString p
  | c :: cs =>
    let q := p.advance c
    match s with
    | .nothing =>
      if c = '"' then .ok (reversed.reverse, ⟨q, cs⟩)
      else if c = '\\' then readChars reversed .letter q cs
      else if isControl c then malformed .controlCharacter q
      else readChars (c :: reversed) .nothing q cs
    | .letter =>
      match escaped? c with
      | some e => readChars (e :: reversed) .nothing q cs
      | none =>
        if c = 'u' then
          match checkCode q cs with
          | .ok _ => readChars reversed (.code none 4 0) q cs
          | .error e => .error e
        else malformed .badEscape (p.afterByte c)
    | .code high left value =>
      let value := 16 * value + (Text.digit? 16 c).getD 0
      if 1 < left then readChars reversed (.code high (left - 1) value) q cs
      else match decode high value q with
        | .ok (.inl e) => readChars (e :: reversed) .nothing q cs
        | .ok (.inr h) => readChars reversed (.pair h) q cs
        | .error e => .error e
    | .pair high =>
      if c = '\\' then readChars reversed (.pairLetter high) q cs else malformed .halfSurrogate (p.afterByte c)
    | .pairLetter high =>
      if c = 'u' then
        match checkCode q cs with
        | .ok _ => readChars reversed (.code (some high) 4 0) q cs
        | .error e => .error e
      else malformed .halfSurrogate (p.afterByte c)

/-- A string behind its opening quote. -/
def readString (k : Cursor) : Read (String × Cursor) :=
  (readChars [] .nothing k.place k.rest).map fun r => (String.ofList r.1, r.2)

/-- Move over a string behind its opening quote; halves of pairs may stand alone in it. -/
def skipString (letter : Bool) (p : Place) : List Char → Read Cursor
  | [] => malformed .endOfString p
  | c :: cs =>
    let q := p.advance c
    if letter then
      if (escaped? c).isSome then skipString false q cs
      else if c = 'u' then
        match checkCode q cs with
        | .ok _ => skipString false q cs
        | .error e => .error e
      else malformed .badEscape (p.afterByte c)
    else if c = '"' then .ok ⟨q, cs⟩
    else if isControl c then malformed .controlCharacter p
    else skipString (c == '\\') q cs

/-! ### Numbers -/

inductive Number where
  | integer (n : Int)
  | float (x : Float)

/-- Append digits to a number as long as it stays within 64 bits; also how many were appended. -/
def appendWithin (n count : Nat) : List Char → Nat × Nat
  | [] => (n, count)
  | c :: cs =>
    let next := 10 * n + Decimal.digitValue c
    if next < UInt64.size then appendWithin next (count + 1) cs else (n, count)

/-- `x * 10 ^ e`, the power taken in steps that are floats; `none` if it is too large. -/
def scale (x : Float) (e : Int) : Option Float :=
  if e.natAbs ≤ 308 then
    let power := Decimal.nearestFloat 1 e.natAbs
    if 0 ≤ e then
      let y := x * power
      if y.isInf then none else some y
    else some (x / power)
  else if x == 0.0 then some x
  else if 0 ≤ e then none
  else scale (x / Decimal.nearestFloat 1 308) (e + 308)
termination_by e.natAbs
decreasing_by omega

def ofParts (negative : Bool) (significand : Nat) (e : Int) (k : Cursor) : Read (Number × Cursor) :=
  match scale (UInt64.ofNat significand).toFloat e with
  | some x => .ok (.float (if negative then -x else x), k)
  | none => malformed .numberTooLarge k.place

/-- The digits of an exponent up to the one that takes it beyond 31 bits, if there is one. -/
def exponentWithin (n count : Nat) : List Char → Nat × Option Nat
  | [] => (n, none)
  | c :: cs =>
    let next := 10 * n + Decimal.digitValue c
    if next < Nat.pow 2 31 then exponentWithin next (count + 1) cs else (n, some (count + 1))

/-- The exponent at the letter before it, and the float that it completes. -/
def readExponent (negative : Bool) (significand : Nat) (e : Int) (k : Cursor) : Read (Number × Cursor) :=
  let k := k.drop 1
  let below := k.rest.head? == some '-'
  let k := if below || k.rest.head? == some '+' then k.drop 1 else k
  match k.rest with
  | [] => malformed .endOfValue k.place
  | c :: _ =>
    if ¬ Decimal.isDigit c then malformed .badNumber k.peek
    else
      let after := k.dropWhile Decimal.isDigit
      match exponentWithin 0 0 (k.rest.takeWhile Decimal.isDigit) with
      | (n, none) => ofParts negative significand (if below then e - n else e + n) after
      | (_, some count) =>
        if significand ≠ 0 ∧ ¬ below then malformed .numberTooLarge (k.drop count).place
        else .ok (.float (if negative then -0.0 else 0.0), after)

/-- The digits behind a point, and the float that they continue. -/
def readFraction (negative : Bool) (significand : Nat) (e : Int) (k : Cursor) : Read (Number × Cursor) :=
  let k := k.drop 1
  let ds := k.rest.takeWhile Decimal.isDigit
  if ds.isEmpty then malformed (if k.rest.isEmpty then .endOfValue else .badNumber) k.peek
  else
    let (significand, count) := appendWithin significand 0 ds
    let k := k.dropWhile Decimal.isDigit
    match k.rest with
    | 'e' :: _ | 'E' :: _ => readExponent negative significand (e - count) k
    | _ => ofParts negative significand (e - count) k

/-- A number behind its sign. -/
def readNumber (negative : Bool) (k : Cursor) : Read (Number × Cursor) :=
  match k.rest with
  | [] => malformed .endOfValue k.place
  | c :: cs =>
    if ¬ Decimal.isDigit c then malformed .badNumber k.peek
    else if c = '0' ∧ cs.head?.any Decimal.isDigit then malformed .badNumber (k.drop 1).peek
    else
      let ds := k.rest.takeWhile Decimal.isDigit
      let (significand, count) := appendWithin 0 0 ds
      let dropped : Int := ds.length - count
      let after := k.dropWhile Decimal.isDigit
      match after.rest with
      | '.' :: _ => readFraction negative significand dropped after
      | 'e' :: _ | 'E' :: _ => readExponent negative significand dropped after
      | _ =>
        if dropped ≠ 0 then ofParts negative significand dropped after
        else if ¬ negative then .ok (.integer significand, after)
        else if significand = 0 ∨ Nat.pow 2 63 < significand then
          .ok (.float (-(UInt64.ofNat significand).toFloat), after)
        else .ok (.integer (-(significand : Int)), after)

/-- Move over an exponent at the letter before it. -/
def skipExponent (k : Cursor) : Read Cursor :=
  let k := k.drop 1
  let k := if k.rest.head? == some '-' || k.rest.head? == some '+' then k.drop 1 else k
  if k.rest.head?.any Decimal.isDigit then .ok (k.dropWhile Decimal.isDigit) else malformed .badNumber k.peek

/-- Move over a number behind its sign, whatever its size. -/
def skipNumber (k : Cursor) : Read Cursor :=
  match k.rest with
  | [] => malformed .badNumber k.place
  | c :: cs =>
    if ¬ Decimal.isDigit c then malformed .badNumber k.peek
    else if c = '0' ∧ cs.head?.any Decimal.isDigit then malformed .badNumber (k.drop 1).peek
    else
      let k := k.dropWhile Decimal.isDigit
      match k.rest with
      | '.' :: _ =>
        let k := k.drop 1
        if ¬ k.rest.head?.any Decimal.isDigit then malformed .badNumber k.peek
        else
          let k := k.dropWhile Decimal.isDigit
          match k.rest with
          | 'e' :: _ | 'E' :: _ => skipExponent k
          | _ => .ok k
      | 'e' :: _ | 'E' :: _ => skipExponent k
      | _ => .ok k

end CommitCharts.Json
