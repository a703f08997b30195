import CommitCharts.Database.File
import CommitCharts.Database.Log
import CommitCharts.Database.Recent
import CommitCharts.FileTree

/-!
# CommitCharts.Content — what files hold

A file holds bytes or, when it was made as a database of measured results, the tables of it.  Bytes may be those of
any database file; a file of at most one byte is a database without tables.  What readers of a log keep in its index is
nobody else's concern, so that nothing but its first bytes is known.
-/

namespace CommitCharts

inductive Content where
  | bytes (b : ByteArray)
  | database (d : Database)
  /-- The index of a log, as its last reader left it. -/
  | index

namespace Content

def ofText (s : String) : Content := .bytes s.toUTF8

/-- The text of a file of valid UTF-8. -/
def text? : Content → Option String
  | .bytes b => String.fromUTF8? b
  | .database _ | .index => none

/-- The bytes of a file, as far as they are known. -/
def bytes? : Content → Option ByteArray
  | .bytes b => some b
  | .database _ | .index => none

/-- Whether nothing was ever written to the file as a database. -/
def isBlank : Content → Bool
  | .bytes b => Database.Image.isEmptyFile b
  | .database _ | .index => false

/-- The first byte of the file. -/
def firstByte? : Content → Option UInt8
  | .bytes b => b[0]?
  | .database _ => Database.Image.magic.head?
  | .index => some 0x18

/-- Whether changes of the database go to a log beside it. -/
def usesLog : Content → Bool
  | .bytes b => Database.Image.usesLog b
  | .database _ | .index => false

/-- Why the file cannot be opened as a database, if it cannot. -/
def openingFault? : Content → Option Database.Fault
  | .bytes b => Database.openingFault? b
  | .database _ => none
  | .index => some .notDatabase

def answer? : Content → Except Database.QueryError Database.Answer
  | .bytes b => Database.fileAnswer? b
  | .database d => d.answer?
  | .index => .error (.unreadable .notDatabase)

/-- What a reader sees of the file when changes of it stand in a log.  Of a database that is known by its tables, the
pages are those in the log. -/
def behind (log : Database.Log) (c : Content) : Content :=
  if log.frames.isEmpty then c else .bytes (log.applyTo (c.bytes?.getD .empty))

/-- The file after changes of its tables; a file that holds something else stays what it is. -/
def change (c : Content) (changes : List Database.Change) : Content :=
  match c with
  | .database d => .database (d.applyAll changes)
  | .bytes b =>
    if Database.Image.isEmptyFile b && !changes.isEmpty then .database (Database.applyAll {} changes) else .bytes b
  | .index => .index

end Content

/-- The files that the program works on. -/
abbrev Files := FileTree Content

end CommitCharts
