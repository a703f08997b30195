import CommitCharts.Path
import CommitCharts.SortedMap

/-!
# CommitCharts.FileTree — directories and files

A tree maps locations, lists of names from the root, to directories and files; the root is always a
directory.  A path is followed name by name from the root or from the working directory.  There are no
links and no permissions, so the only faults are those of names that are missing, taken, too long or of
the wrong kind.
-/

namespace CommitCharts

inductive Fault where
  | notFound
  | exists
  | notDirectory
  | isDirectory
  | nameTooLong
  | nulByte
  deriving DecidableEq, Repr

def Fault.message : Fault → String
  | .notFound => "No such file or directory (os error 2)"
  | .exists => "File exists (os error 17)"
  | .notDirectory => "Not a directory (os error 20)"
  | .isDirectory => "Is a directory (os error 21)"
  | .nameTooLong => "File name too long (os error 36)"
  | .nulByte => "file name contained an unexpected NUL byte"

abbrev Location := List String

inductive FileTree.Node (α : Type) where
  | directory
  | file (content : α)
  deriving DecidableEq, Repr

structure FileTree (α : Type) where
  nodes : SortedMap Location (FileTree.Node α)
  /-- The directory that relative paths start from. -/
  working : Location

namespace FileTree

variable {α : Type}

def node? (t : FileTree α) (l : Location) : Option (Node α) :=
  if l.isEmpty then some .directory else t.nodes.get? l

/-- What a path leads to: a node, or a free name in a directory. -/
inductive Target (α : Type) where
  | found (location : Location) (node : Node α)
  | free (location : Location)

/-- Follow names from a directory. -/
def walk (t : FileTree α) (l : Location) : List String → Except Fault (Target α)
  | [] => .ok (.found l .directory)
  | name :: names =>
    if name.isEmpty || name == "." then walk t l names
    else if name == ".." then walk t l.dropLast names
    else if 255 < name.utf8ByteSize then .error .nameTooLong
    else match t.node? (l ++ [name]) with
      | some .directory => walk t (l ++ [name]) names
      | some (.file content) =>
        if names.isEmpty then .ok (.found (l ++ [name]) (.file content)) else .error .notDirectory
      | none => if names.all String.isEmpty then .ok (.free (l ++ [name])) else .error .notFound

/-- Where a path starts. -/
def start (t : FileTree α) (p : Path) : Location := if p.isAbsolute then [] else t.working

/-- The fault of a path that no tree can have. -/
def textFault? (p : Path) : Option Fault :=
  if p.text.toList.contains '\x00' then some .nulByte
  else if p.text.isEmpty then some .notFound
  else if 4096 ≤ p.text.utf8ByteSize then some .nameTooLong
  else none

def resolve (t : FileTree α) (p : Path) : Except Fault (Target α) :=
  match textFault? p with
  | some fault => .error fault
  | none => t.walk (t.start p) p.segments

def pathExists (t : FileTree α) (p : Path) : Bool :=
  match t.resolve p with
  | .ok (.found ..) => true
  | _ => false

def read (t : FileTree α) (p : Path) : Except Fault α :=
  match t.resolve p with
  | .ok (.found _ (.file content)) => .ok content
  | .ok (.found _ .directory) => .error .isDirectory
  | .ok (.free _) => .error .notFound
  | .error e => .error e

def put (t : FileTree α) (l : Location) (n : Node α) : FileTree α := { t with nodes := t.nodes.insert l n }

def remove (t : FileTree α) (l : Location) : FileTree α := { t with nodes := t.nodes.erase l }

/-- Whether names lead to a directory but for the last one. -/
def reachesLast (t : FileTree α) (l : Location) (names : List String) : Bool :=
  match t.walk l names.dropLast with
  | .ok (.found _ .directory) => true
  | _ => false

/-- Create the file or replace what it holds.  A slash at the end asks for a directory, which cannot be written,
whatever the name before it. -/
def write (t : FileTree α) (p : Path) (content : α) : Except Fault (FileTree α) :=
  match textFault? p with
  | some fault => .error fault
  | none =>
    let names := p.dropSlashes.segments
    if p.endsInSlash && t.reachesLast (t.start p) names then .error .isDirectory
    else
      match t.walk (t.start p) names with
      | .ok (.found _ .directory) => .error .isDirectory
      | .ok (.found l (.file _)) | .ok (.free l) => .ok (t.put l (.file content))
      | .error e => .error e

/-- Make the missing directories along names from a directory.  A file in the way is in the place of the
last name, or of a directory below a new one, or it stops the path before any directory is made. -/
def makeAlong (t : FileTree α) (made : Bool) (l : Location) : List String → FileTree α × Option Fault
  | [] => (t, none)
  | name :: names =>
    if name.isEmpty || name == "." then makeAlong t made l names
    else if name == ".." then makeAlong t made l.dropLast names
    else if 255 < name.utf8ByteSize then (t, some .nameTooLong)
    else match t.node? (l ++ [name]) with
      | some .directory => makeAlong t made (l ++ [name]) names
      | some (.file _) => (t, some (if made || names.all Path.isNoise then .exists else .notDirectory))
      | none => makeAlong (t.put (l ++ [name]) .directory) true (l ++ [name]) names

/-- Make a directory and those above it that are missing.  Directories made before a fault stay. -/
def makeDirectories (t : FileTree α) (p : Path) : FileTree α × Option Fault :=
  if p.text.toList.contains '\x00' then (t, some .nulByte)
  else if 4096 ≤ p.text.utf8ByteSize then (t, some .nameTooLong)
  else t.makeAlong false (t.start p) p.segments

/-- The locations of all files, in order of their paths. -/
def files (t : FileTree α) : List Location :=
  t.nodes.entries.filterMap fun
    | (l, .file _) => some l
    | (_, .directory) => none

/-- The files below the working directory as sorted paths relative to it. -/
def workingFiles (t : FileTree α) : List String :=
  let below := t.files.filterMap fun l =>
    if t.working.isPrefixOf l then some ("/".intercalate (l.drop t.working.length)) else none
  below.mergeSort fun a b => a ≤ b

end FileTree

end CommitCharts
