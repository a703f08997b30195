import CommitCharts.Database.Sql.Token
import CommitCharts.Text.Percent

/-!
# CommitCharts.Database.Address — where a database is

The path of a database is that of its file, unless it asks for a database in memory or is an address.  An address
starts with the word `file` and a colon and may have options behind a question mark.  A fragment behind a number
sign is dropped.
-/

namespace CommitCharts.Database

/-- How those at work on a database keep each other out. -/
inductive Locking where
  /-- By locks of the system on parts of the file, which readers may share. -/
  | shared
  /-- By a file beside it that only one of them can make. -/
  | lockFile
  | none
  deriving DecidableEq, Repr

structure Address where
  /-- The file; a database in memory has none and starts out empty. -/
  file : Option String
  /-- Whether the file never changes, so that the files beside it do not matter. -/
  immutable : Bool := false
  locking : Locking := .shared
  /-- Whether the index of the log has to stay as it is. -/
  keepsIndex : Bool := false
  deriving DecidableEq, Repr

inductive AddressError where
  | authority (name : String)
  | storage (name : String)
  | cacheMode (name : String)
  | accessMode (name : String)
  /-- The mode would allow writing. -/
  | refused (mode : String)
  /-- There is no file at the path. -/
  | noFile (path : String)
  deriving DecidableEq, Repr

def AddressError.message : AddressError → String
  | .authority name => "invalid uri authority: " ++ name
  | .storage name => "no such vfs: " ++ name
  | .cacheMode name => "no such cache mode: " ++ name
  | .accessMode name => "no such access mode: " ++ name
  | .refused mode => "access mode not allowed: " ++ mode
  | .noFile path => "unable to open database file: " ++ path

namespace Address

/-- The part of a text before the first character of a kind, and what follows it. -/
def cutAt (c : Char) (cs : List Char) : List Char × List Char := (cs.takeWhile (· ≠ c), (cs.dropWhile (· ≠ c)).tail)

/-- The parts of a text between the characters of a kind. -/
def splitAt (c : Char) (s : String) : List String := s.splitOn (String.singleton c)

structure Parameter where
  name : String
  value : String

def decode (cs : List Char) : String := (Text.percentDecode (String.ofList cs)).getD ""

/-- The options that have a name. -/
def parameters (query : List Char) : List Parameter :=
  ((splitAt '&' (String.ofList query)).map fun item =>
    let (name, value) := cutAt '=' item.toList
    Parameter.mk (decode name) (decode value)).filter fun p => !p.name.isEmpty

/-- Ways of storing files, and how they lock them; one more keeps databases in memory. -/
def storages : List (String × Locking) :=
  [("unix", .shared), ("unix-excl", .shared), ("unix-none", .none), ("unix-dotfile", .lockFile), ("memdb", .shared)]

/-- Whether the value of an option means yes. -/
def isYes (value : String) : Bool :=
  match value.toList with
  | [] => false
  | c :: cs =>
    if c.isDigit then Decimal.ofDigits ((c :: cs).takeWhile Decimal.isDigit) % 256 ≠ 0
    else ["on", "yes", "true"].contains (Sql.fold value)

def option? (ps : List Parameter) (name : String) : Option String :=
  (ps.find? (·.name == name)).map (·.value)

/-- Look at the options for access one after the other: whether they ask for a database in memory. -/
def access (inMemory : Bool) : List Parameter → Except AddressError Bool
  | [] => .ok inMemory
  | p :: ps =>
    match p.name, p.value with
    | "cache", "shared" | "cache", "private" => access inMemory ps
    | "cache", other => .error (.cacheMode other)
    | "mode", "ro" => access inMemory ps
    | "mode", "memory" => access true ps
    | "mode", "rw" => .error (.refused "rw")
    | "mode", "rwc" => .error (.refused "rwc")
    | "mode", other => .error (.accessMode other)
    | _, _ => access inMemory ps

/-- Take the authority off an address; only this machine may be named. -/
def afterAuthority (cs : List Char) : Except AddressError (List Char) :=
  match cs with
  | '/' :: '/' :: rest =>
    let name := String.ofList (rest.takeWhile (· ≠ '/'))
    if name.isEmpty || name == "localhost" then .ok (rest.dropWhile (· ≠ '/')) else .error (.authority name)
  | cs => .ok cs

/-- The word at the start of an address, with its colon. -/
def scheme : List Char := "file:".toList

/-- The address that a path stands for. -/
def ofText (path : String) : Except AddressError Address := do
  let cs := path.toList
  if path == ":memory:" then return { file := none }
  else if scheme.isPrefixOf cs then
    let rest ← afterAuthority (cs.drop scheme.length)
    let (target, query) := cutAt '?' (cutAt '#' rest).1
    let ps := parameters query
    let inMemory ← access false ps
    let storage ← match ps.reverse.find? (·.name == "vfs") with
      | none => pure ("unix", Locking.shared)
      | some p =>
        match storages.find? (·.1 == p.value) with
        | some s => pure s
        | none => throw (.storage p.value)
    let some file := Text.percentDecode (String.ofList target) | throw (.noFile path)
    let isFile := !(inMemory || storage.1 == "memdb" || file.isEmpty || file == ":memory:")
    let yes (name : String) : Bool := (option? ps name).any isYes
    return { file := if isFile then some file else none
             immutable := yes "immutable"
             locking := if yes "nolock" then .none else storage.2
             keepsIndex := yes "readonly_shm" }
  else return { file := some path }

end Address

end CommitCharts.Database
