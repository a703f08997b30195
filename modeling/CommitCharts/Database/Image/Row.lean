import CommitCharts.Database.Image
import CommitCharts.Database.Value

/-!
# CommitCharts.Database.Image.Row — the values of a row

A row starts with its values' types, one number each, which say how many bytes a value takes.  The values
follow in the same order.
-/

namespace CommitCharts.Database

namespace Encoding

/-- The bytes of a character's number in UTF-8; other than in text, the number may be half of a pair. -/
def utf8Bytes (n : Nat) : List UInt8 :=
  let tail (k : Nat) : UInt8 := (0x80 + n / Nat.pow 64 k % 64).toUInt8
  if n < 0x80 then [n.toUInt8]
  else if n < 0x800 then [(0xC0 + n / 64).toUInt8, tail 0]
  else if n < 0x10000 then [(0xE0 + n / 4096).toUInt8, tail 1, tail 0]
  else [(0xF0 + n / 262144).toUInt8, tail 2, tail 1, tail 0]

/-- Sixteen-bit units as UTF-8.  A unit that is half of a pair takes the next unit with it, whatever that is. -/
def ofUnits : List Nat → List UInt8
  | [] => []
  | [u] => utf8Bytes u
  | u :: v :: us =>
    if 0xD800 ≤ u ∧ u < 0xE000 then
      utf8Bytes (v % 0x400 + u % 0x40 * 0x400 + (u / 0x40 % 0x10 + 1) * 0x10000) ++ ofUnits us
    else utf8Bytes u ++ ofUnits (v :: us)

/-- Pairs of bytes as numbers; an odd byte at the end is dropped. -/
def units (lowFirst : Bool) : List UInt8 → List Nat
  | a :: b :: bs => (if lowFirst then a.toNat + 256 * b.toNat else 256 * a.toNat + b.toNat) :: units lowFirst bs
  | _ => []

/-- Stored text as UTF-8. -/
def toUtf8 (e : Encoding) (bytes : List UInt8) : List UInt8 :=
  match e with
  | .utf8 => bytes
  | .utf16le => ofUnits (units true bytes)
  | .utf16be => ofUnits (units false bytes)

/-- A character as sixteen-bit units. -/
def unitsOf (c : Char) : List Nat :=
  let n := c.toNat
  if n < 0x10000 then [n] else [0xD800 + (n - 0x10000) / 0x400, 0xDC00 + (n - 0x10000) % 0x400]

/-- How text is stored. -/
def ofText (e : Encoding) (s : String) : List UInt8 :=
  let high (u : Nat) : UInt8 := (u / 256).toUInt8
  let low (u : Nat) : UInt8 := (u % 256).toUInt8
  match e with
  | .utf8 => textBytes s
  | .utf16le => s.toList.flatMap fun c => (unitsOf c).flatMap fun u => [low u, high u]
  | .utf16be => s.toList.flatMap fun c => (unitsOf c).flatMap fun u => [high u, low u]

end Encoding

/-- A page of a payload that lies partly behind the end of the file: where the page and where the gap starts. -/
structure Gap where
  page : Nat
  start : Nat

/-- The bytes of a row.  What the file lacks is filled up with zeros. -/
structure Payload where
  bytes : ByteArray
  gap : Option Gap := none

/-- A value that starts well before a page with a gap is read without looking at the page first, so it must not reach
into the gap. -/
def Payload.isReadable (p : Payload) (place size : Nat) : Bool :=
  p.gap.all fun g => !(place + 4 ≤ g.page && g.start < place + size)

namespace Image

/-- How many bytes a value takes. -/
def sizeOfType : Nat → Nat
  | 0 | 8 | 9 | 10 | 11 => 0
  | 1 => 1
  | 2 => 2
  | 3 => 3
  | 4 => 4
  | 5 => 6
  | 6 | 7 => 8
  | type => (type - 12) / 2

/-- The integer that a number stands for when its highest bit is the sign. -/
def signed (width n : Nat) : Int64 :=
  Int64.ofInt (if n < Nat.pow 2 (8 * width - 1) then n else n - (Nat.pow 2 (8 * width) : Nat))

/-- The value at a place. -/
def valueAt (e : Encoding) (b : ByteArray) (type place : Nat) : Except Fault Value :=
  let size := sizeOfType type
  match type with
  | 0 | 10 | 11 => .ok .null
  | 8 => .ok (.integer 0)
  | 9 => .ok (.integer 1)
  | 7 => do
    let x := Float.ofBits (← numberIn b place size).toUInt64
    return if x.isNaN then .null else .real x
  | 1 | 2 | 3 | 4 | 5 | 6 => do return .integer (signed size (← numberIn b place size))
  | _ =>
    if b.size < place + size then .error .malformed
    else
      let bytes := (b.extract place (place + size)).data.toList
      .ok (if type % 2 = 1 then .ofTextBytes (e.toUtf8 bytes) else .blob bytes)

/-- The types from a place on up to where the values start, `needed` at most, and the place behind them. -/
def types (b : ByteArray) (start : Nat) : Nat → Nat → Except Fault (List Nat × Nat)
  | 0, place => .ok ([], place)
  | needed + 1, place => do
    let (type, place) ← varintIn b place
    if start ≤ place then return ([type], place)
    else
      let (types, place) ← types b start needed place
      return (type :: types, place)

/-- Values of the given types, one behind the other. -/
def values (e : Encoding) (p : Payload) : List Nat → Nat → Except Fault (List Value)
  | [], _ => .ok []
  | type :: types, place => do
    expect (p.isReadable place (sizeOfType type)) .unreadable
    let v ← valueAt e p.bytes type place
    return v :: (← values e p types (place + sizeOfType type))

/-- The first values of a row's payload, `needed` at most.  The payload ends where its last value ends.  A row without
a payload has no values. -/
def rowValues (e : Encoding) (p : Payload) (needed : Nat) : Except Fault (List Value) := do
  let b := p.bytes
  if needed = 0 ∨ b.isEmpty ∨ b[0]? = some 0 then return []
  let (start, place) ← varintIn b 0
  expect (start ≤ b.size) .malformed
  let (types, place) ← types b start needed place
  let size := types.foldl (fun n type => n + sizeOfType type) start
  expect (place ≤ start && size ≤ b.size && (place < start || size == b.size)) .malformed
  values e p types start

end Image

end CommitCharts.Database
