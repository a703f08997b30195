/-!
# CommitCharts.Database.Fault — files that cannot be read as databases

A fault is found in the file itself or in the files beside it.  Every fault has a number, which stands with a
general text of its kind at the end of a list of causes.
-/

namespace CommitCharts.Database

inductive Fault where
  | notDatabase
  | malformed
  /-- A thing that the file lists cannot be understood. -/
  | malformedSchema (name : String) (detail : String)
  | unsupportedFormat
  /-- A change that was not finished waits to be undone, which only a writer may do. -/
  | unfinishedChange
  | unreadable
  | unopenable
  /-- Somebody else is at work on the file. -/
  | locked
  /-- Readers of the log cannot come to terms. -/
  | contended
  deriving DecidableEq, Repr

namespace Fault

def message : Fault → String
  | .notDatabase => "file is not a database"
  | .malformed => "database disk image is malformed"
  | .malformedSchema name detail =>
    "malformed database schema (" ++ name ++ ")" ++ if detail.isEmpty then "" else " - " ++ detail
  | .unsupportedFormat => "unsupported file format"
  | .unfinishedChange => "attempt to write a readonly database"
  | .unreadable => "disk I/O error"
  | .unopenable => "unable to open database file"
  | .locked => "database is locked"
  | .contended => "locking protocol"

/-- The number and the general text of a fault. -/
def code : Fault → String
  | .notDatabase => "Error code 26: File opened that is not a database file"
  | .malformed | .malformedSchema .. => "Error code 11: The database disk image is malformed"
  | .unsupportedFormat => "Error code 1: SQL error or missing database"
  | .unfinishedChange => "Error code 8: Attempt to write a readonly database"
  | .unreadable => "Error code 10: Some kind of disk I/O error occurred"
  | .unopenable => "Error code 14: Unable to open the database file"
  | .locked => "Error code 5: The database file is locked"
  | .contended => "Error code 15: Database lock protocol error"

end Fault

end CommitCharts.Database
