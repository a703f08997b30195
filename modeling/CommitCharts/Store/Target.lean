import CommitCharts.Content
import CommitCharts.Database.Address

/-!
# CommitCharts.Store.Target — the file behind a database path

A database is found at its address.  Beside its file may stand a journal, which undoes a change that was not
finished, and a log, which holds the latest changes.  Whoever reads a log shares an index of it with others.  A reader
of the database leaves the file as it is, but not always what stands beside it.
-/

namespace CommitCharts

namespace FileTree

variable {α : Type}

/-- The location that names lead to from a directory when a double dot takes back the name before it, whatever is
there; `none` if a name is too long or belongs to something below a file. -/
def settle (t : FileTree α) (l : Location) : List String → Option Location
  | [] => some l
  | name :: names =>
    if name.isEmpty || name == "." then settle t l names
    else if name == ".." then settle t l.dropLast names
    else if 255 < name.utf8ByteSize then none
    else
      match t.node? l with
      | some (.file _) => none
      | _ => settle t (l ++ [name]) names

/-- How many bytes the absolute path of a location takes. -/
def pathSize (l : Location) : Nat := l.foldl (fun n name => n + 1 + name.utf8ByteSize) 0

end FileTree

/-- The paths of databases may have this many bytes. -/
def longestPath : Nat := 504

/-- A database that a store reads from. -/
inductive Target where
  /-- A database in memory, which is empty. -/
  | memory
  | directory
  | file (location : Location) (content : Content) (address : Database.Address)

namespace Target

/-- The target of a path. -/
def ofPath (files : Files) (p : Path) : Except Database.AddressError Target := do
  let address ← Database.Address.ofText p.text
  match address.file with
  | none => return .memory
  | some path =>
    let some l := files.settle (files.start ⟨path⟩) (Path.segments ⟨path⟩) | throw (.noFile p.text)
    if longestPath < FileTree.pathSize l then throw (.noFile p.text)
    match files.node? l with
    | some (.file content) => return .file l content address
    | some .directory => return .directory
    | none => throw (.noFile p.text)

/-- The location of a file that belongs to another, beside it. -/
def beside (l : Location) (ending : String) : Location := l.dropLast ++ [(l.getLast?.getD "") ++ ending]

def journal (l : Location) : Location := beside l "-journal"

def log (l : Location) : Location := beside l "-wal"

/-- The index of the log. -/
def index (l : Location) : Location := beside l "-shm"

/-- What those who use lock files make to keep others out. -/
def lockFile (l : Location) : Location := beside l ".lock"

/-- Whether the name of a location is too long for a file. -/
def isOverlong (l : Location) : Bool := 255 < (l.getLast?.getD "").utf8ByteSize

def isDirectory (files : Files) (l : Location) : Bool :=
  match files.node? l with
  | some .directory => true
  | _ => false

/-- The first byte of a file that is not empty. -/
def firstByte? (files : Files) (l : Location) : Option UInt8 :=
  match files.node? l with
  | some (.file content) => content.firstByte?
  | _ => none

/-- The bytes at a location, if a file with bytes is there. -/
def bytesAt (files : Files) (l : Location) : ByteArray :=
  match files.node? l with
  | some (.file content) => content.bytes?.getD .empty
  | _ => .empty

/-- Whether a reader goes through the log of a database that is not empty. -/
def readsLog (files : Files) (l : Location) (content : Content) : Bool :=
  content.usesLog || (firstByte? files (log l)).isSome

/-- Put a file where nothing is. -/
def create (files : Files) (l : Location) (content : Content) : Files :=
  if (files.node? l).isSome then files else files.put l (.file content)

/-- Take away a file that is not empty. -/
def drop (files : Files) (l : Location) : Files := if (firstByte? files l).isSome then files.remove l else files

/-- What keeps a reader from locking a database. -/
def lockFault? (files : Files) (l : Location) (address : Database.Address) : Option Database.Fault :=
  if address.locking ≠ .lockFile then none
  else if isOverlong (lockFile l) then some .unreadable
  else if (files.node? (lockFile l)).isSome then some .locked
  else none

/-- What a journal beside a database that is not empty means.  The reader takes its own lock file for that of whoever
writes the journal. -/
def journalFault? (files : Files) (l : Location) (address : Database.Address) : Option Database.Fault :=
  if address.locking = .lockFile then none
  else if isDirectory files (journal l) then some .unreadable
  else if (firstByte? files (journal l)).any (· ≠ 0) then some .unfinishedChange
  else none

/-- The files without the journal of an empty database, which goes when no lock is needed for that. -/
def dropJournal (files : Files) (l : Location) (address : Database.Address) : Files :=
  if address.locking = .none then drop files (journal l) else files

/-- Read an empty database, whose log goes as well. -/
def readBlank (files : Files) (l : Location) (content : Content) (address : Database.Address) :
    Files × Except Database.Fault Content :=
  let files := dropJournal files l address
  if isDirectory files (log l) then (files, .error .unreadable) else (drop files (log l), .ok content)

/-- Read a database through its log.  A missing log is made, and the index is made anew.  Where the index has to stay,
it has to be there, and the log must not be a stray one. -/
def readLog (files : Files) (l : Location) (content : Content) (address : Database.Address) :
    Files × Except Database.Fault Content :=
  let files := create files (log l) (.bytes .empty)
  let bytes := bytesAt files (log l)
  let seen := (Database.Log.ofBytes bytes).map fun log => content.behind log
  if !(address.keepsIndex || isDirectory files (index l)) then (files.put (index l) (.file .index), seen)
  else if (files.node? (index l)).isNone then (files, .error .unopenable)
  else if Database.Log.isStray bytes then (files, .error .contended)
  else (files, seen)

/-- Read a database: the files as the reader leaves them, and what it sees of the database or why it sees nothing. -/
def read (files : Files) : Target → Files × Except Database.Fault Content
  | .memory => (files, .ok (.bytes .empty))
  | .directory => (files, .error .unreadable)
  | .file l content address =>
    if address.immutable then (files, .ok content)
    else
      match lockFault? files l address with
      | some fault => (files, .error fault)
      | none =>
        if content.isBlank then readBlank files l content address
        else
          match journalFault? files l address with
          | some fault => (files, .error fault)
          | none =>
            if isDirectory files (log l) then (files, .error .unopenable)
            else if !readsLog files l content then (files, .ok content)
            else if address.locking ≠ .shared || isOverlong (log l) then (files, .error .unopenable)
            else readLog files l content address

/-- The files after a database was read. -/
def traces (files : Files) (t : Target) : Files := (t.read files).1

/-- What a reader sees of a database. -/
def view? (files : Files) (t : Target) : Except Database.Fault Content := (t.read files).2

/-- Why a database cannot be opened, if it cannot. -/
def fault? (files : Files) (t : Target) : Option Database.Fault :=
  match t.view? files with
  | .error fault => some fault
  | .ok content => content.openingFault?

def answer? (files : Files) (t : Target) : Except Database.QueryError Database.Answer := do
  (← (t.view? files).mapError .unreadable).answer?

end Target

end CommitCharts
