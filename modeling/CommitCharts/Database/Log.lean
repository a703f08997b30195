import CommitCharts.Database.Image

/-!
# CommitCharts.Database.Log — the log beside a database file

The latest changes of a database may stand in a log beside its file: a header, and then frames, each with a page as a
change left it.  A frame counts if it bears the mark of the header, if the sums over the log up to it are those that it
tells, and if its change is finished, by itself or by a later frame.
-/

namespace CommitCharts.Database

/-- Two sums over the words of a log, each taking in the other. -/
structure LogSums where
  first : UInt32 := 0
  second : UInt32 := 0
  deriving DecidableEq

/-- A page in a log. -/
structure Frame where
  page : Nat
  /-- How many pages the database has once the change that ends here is finished; 0 if the change goes on. -/
  pages : Nat
  /-- Where the bytes of the page start. -/
  place : Nat

structure Log where
  bytes : ByteArray
  pageSize : Nat
  /-- The frames of finished changes, the latest first. -/
  frames : List Frame

namespace Log

def headerSize : Nat := 32

def frameHeaderSize : Nat := 24

/-- The number that logs start with, but for the last bit, which is set if words are summed up with the most
significant byte first. -/
def magic : UInt32 := 0x377f0682

def version : UInt32 := 3007000

/-- A word of four bytes, those behind the end being zeros. -/
def wordIn (b : ByteArray) (isBig : Bool) (place : Nat) : UInt32 :=
  (if isBig then [0, 1, 2, 3] else [3, 2, 1, 0]).foldl (fun n i => 256 * n + ((b[place + i]?).getD 0).toUInt32) 0

/-- A number in a header. -/
def numberIn (b : ByteArray) (place : Nat) : UInt32 := wordIn b true place

/-- The sums after some more pairs of words. -/
def sumUp (b : ByteArray) (isBig : Bool) (place : Nat) (sums : LogSums) : Nat → LogSums
  | 0 => sums
  | pairs + 1 =>
    let first := sums.first + wordIn b isBig place + sums.second
    let second := sums.second + wordIn b isBig (place + 4) + first
    sumUp b isBig (place + 8) ⟨first, second⟩ pairs

/-- Whether the header tells how frames lie behind it. -/
def isLaidOut (b : ByteArray) : Bool :=
  headerSize < b.size && numberIn b 0 / 2 == magic / 2 && Image.isPageSize (numberIn b 8).toNat

/-- The frames from a place on that belong to the header. -/
def framesFrom (b : ByteArray) (isBig : Bool) (pageSize place : Nat) (sums : LogSums) : Nat → List Frame
  | 0 => []
  | more + 1 =>
    let start := place + frameHeaderSize
    let sums := sumUp b isBig start (sumUp b isBig place sums 1) (pageSize / 8)
    let isMarked := numberIn b (place + 8) == numberIn b 16 && numberIn b (place + 12) == numberIn b 20
    if numberIn b place ≠ 0 && isMarked && sums = ⟨numberIn b (place + 16), numberIn b (place + 20)⟩ then
      ⟨(numberIn b place).toNat, (numberIn b (place + 4)).toNat, start⟩ ::
        framesFrom b isBig pageSize (start + pageSize) sums more
    else []

/-- The frames of finished changes, the latest first. -/
def finished (frames : List Frame) : List Frame := frames.reverse.dropWhile (·.pages == 0)

/-- The log in a file.  A file that is not a log has no frames. -/
def ofBytes (b : ByteArray) : Except Fault Log :=
  let pageSize := (numberIn b 8).toNat
  let isBig := numberIn b 0 % 2 == 1
  let sums := sumUp b isBig 0 {} 3
  if !isLaidOut b || sums ≠ ⟨numberIn b 24, numberIn b 28⟩ then .ok ⟨b, pageSize, []⟩
  else if numberIn b 4 ≠ version then .error .unopenable
  else
    let count := (b.size - headerSize) / (frameHeaderSize + pageSize)
    .ok ⟨b, pageSize, finished (framesFrom b isBig pageSize headerSize sums count)⟩

/-- Whether the file bears a mark without being laid out as a log.  A reader that cannot keep an index never gets
through to it. -/
def isStray (b : ByteArray) : Bool :=
  headerSize ≤ b.size && !isLaidOut b && (numberIn b 16 ≠ 0 || numberIn b 20 ≠ 0)

/-- A page of the database, from the latest frame or else from the file, filled up with zeros. -/
def page (log : Log) (file : ByteArray) (size n : Nat) : ByteArray :=
  let known := match log.frames.find? (·.page = n) with
    | some f => log.bytes.extract f.place (f.place + min size log.pageSize)
    | none => file.extract ((n - 1) * size) (n * size)
  known ++ ⟨(List.replicate (size - known.size) 0).toArray⟩

/-- The database file with all finished changes in it.  The size of its pages is the one that the first page tells. -/
def applyTo (log : Log) (file : ByteArray) : ByteArray :=
  match log.frames with
  | [] => file
  | last :: _ =>
    let first := log.page file 512 1
    let size := Image.pageSizeOf ((numberIn first 16).toNat / 65536)
    if Image.isPageSize size then
      (List.range last.pages).foldl (fun b i => b ++ log.page file size (i + 1)) .empty
    else first

end Log

end CommitCharts.Database
