import CommitCharts.Database.Fault

/-!
# CommitCharts.Database.Image — the bytes of a database file

A database file is a row of pages of one size, numbered from one.  The first hundred bytes of the first page
are a header.  Numbers are stored with the most significant byte first, either in a fixed width or in up to nine
bytes of which all but the last say that another follows.
-/

namespace CommitCharts.Database

/-- How texts are stored. -/
inductive Encoding where
  | utf8
  | utf16le
  | utf16be
  deriving DecidableEq, Repr

/-- A database file and how its pages lie in it.  The last page is filled up with zeros. -/
structure Image where
  bytes : ByteArray
  /-- How many bytes the file itself has. -/
  fileSize : Nat
  pageSize : Nat
  /-- How many bytes of a page hold data; the rest of it is reserved. -/
  usable : Nat
  /-- How many pages belong to the database. -/
  pages : Nat
  encoding : Encoding

namespace Image

/-- The text that every database file starts with. -/
def magic : List UInt8 := "SQLite format 3\x00".toUTF8.toList

def headerSize : Nat := 100

/-- A file of one byte counts as empty as well. -/
def isEmptyFile (b : ByteArray) : Bool := b.size ≤ 1

/-- A number of fixed width. -/
def numberIn (b : ByteArray) (place width : Nat) : Except Fault Nat :=
  (List.range width).foldlM (fun n i =>
    match b[place + i]? with
    | some x => .ok (256 * n + x.toNat)
    | none => .error .malformed) 0

/-- A number of variable width and the place behind it.  A byte under 128 ends it; the ninth byte always does and
counts whole. -/
def varintFrom (b : ByteArray) : Nat → Nat → Nat → Except Fault (Nat × Nat)
  | more, place, n =>
    match b[place]?, more with
    | none, _ => .error .malformed
    | some x, 0 => .ok (256 * n + x.toNat, place + 1)
    | some x, more + 1 =>
      if x < 128 then .ok (128 * n + x.toNat, place + 1)
      else varintFrom b more (place + 1) (128 * n + (x.toNat - 128))

def varintIn (b : ByteArray) (place : Nat) : Except Fault (Nat × Nat) := varintFrom b 8 place 0

/-- The bytes with zeros behind them up to a multiple of a size. -/
def padded (b : ByteArray) (size : Nat) : ByteArray :=
  b ++ ⟨(List.replicate ((size - b.size % size) % size) 0).toArray⟩

/-- The stored size of a page; 65536 does not fit its field and is stored as one. -/
def pageSizeOf (stored : Nat) : Nat := if stored = 1 then 65536 else stored

def isPageSize (n : Nat) : Bool := 512 ≤ n && n ≤ 65536 && Nat.pow 2 (Nat.log2 n) == n

/-- The encoding that a number in the header stands for. -/
def encodingOf (n : Nat) : Encoding :=
  if n % 4 = 2 then .utf16le else if n % 4 = 3 then .utf16be else .utf8

/-- Demand a condition. -/
def expect (condition : Bool) (fault : Fault) : Except Fault Unit := if condition then .ok () else .error fault

/-- The image in a file.  The number of pages in the header counts if the header was written by the last change of
the file. -/
def ofBytes (file : ByteArray) : Except Fault Image := do
  let header := padded file headerSize
  expect ((header.extract 0 magic.length).toList == magic) .notDatabase
  expect ((← numberIn header 19 1) ≤ 2) .notDatabase
  expect ((← numberIn header 21 3) == 0x402020) .notDatabase
  let pageSize := pageSizeOf (← numberIn header 16 2)
  expect (isPageSize pageSize) .notDatabase
  let bytes := padded file pageSize
  let filePages := bytes.size / pageSize
  let counted ← numberIn header 28 4
  let isCurrent := counted ≠ 0 ∧ (← numberIn header 24 4) = (← numberIn header 92 4)
  let pages := if isCurrent then counted else filePages
  expect (pages ≤ filePages) .malformed
  let usable := pageSize - (← numberIn header 20 1)
  expect (480 ≤ usable) .notDatabase
  expect ((← numberIn header 47 1) ≤ 4) .unsupportedFormat
  return ⟨bytes, file.size, pageSize, usable, pages, encodingOf (← numberIn header 56 4)⟩

/-- Whether changes of the database go to a log beside it. -/
def usesLog (file : ByteArray) : Bool :=
  (file.extract 0 magic.length).toList == magic && file[19]? == some 2

/-- Where a page starts. -/
def pageStart (img : Image) (page : Nat) : Nat := (page - 1) * img.pageSize

/-- Where the account of what is on a page starts: on the first page, behind the header. -/
def pageAccount (img : Image) (page : Nat) : Nat :=
  if page = 1 then headerSize else img.pageStart page

/-- Demand that the database has a page. -/
def expectPage (img : Image) (page : Nat) : Except Fault Unit := expect (1 ≤ page && page ≤ img.pages) .malformed

def number (img : Image) (place width : Nat) : Except Fault Nat := numberIn img.bytes place width

def varint (img : Image) (place : Nat) : Except Fault (Nat × Nat) := varintIn img.bytes place

/-- Bytes that lie among the first bytes of one page. -/
def slice (img : Image) (page within place size : Nat) : Except Fault ByteArray :=
  if img.pageStart page ≤ place ∧ place + size ≤ img.pageStart page + within then
    .ok (img.bytes.extract place (place + size))
  else .error .malformed

end Image

end CommitCharts.Database
