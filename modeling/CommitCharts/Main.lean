import CommitCharts.CommandLine.Arguments
import CommitCharts.CommandLine.Footprint
import CommitCharts.CommandLine.Usage

/-!
# CommitCharts.Main — the program

The part of the file system that a command touches is read into a tree, the command runs on the tree, and what
is new in it is written back.
-/

namespace CommitCharts.CommandLine

/-- The absolute path of a location. -/
def absolute (l : Location) : String := "/" ++ "/".intercalate l

/-- What stands at a location of the file system. -/
def nodeAt (l : Location) : IO (Option (FileTree.Node Content)) := do
  try
    return some (.file (.bytes (← IO.FS.readBinFile (absolute l))))
  catch
    | .noFileOrDirectory .. => return none
    | .inappropriateType .. => return some .directory
    | e => throw e

/-- Take locations into a tree up to the first file. -/
def takeIn (files : Files) : List Location → IO Files
  | [] => return files
  | l :: ls => do
    match ← nodeAt l with
    | none => takeIn files ls
    | some .directory => takeIn (files.put l .directory) ls
    | some node => return files.put l node

def takeInPaths (files : Files) (paths : List Path) : IO Files :=
  paths.foldlM (fun files p => takeIn files (files.locations p)) files

/-- Bring the file system up to date. -/
def writeBack (updates : List (Location × Update)) : IO Unit :=
  updates.forM fun
    | (l, .directory) => IO.FS.createDirAll (absolute l)
    | (l, .file bytes) => IO.FS.writeBinFile (absolute l) bytes
    | (l, .removal) => IO.FS.removeFile (absolute l)

def perform (c : Command) : IO UInt32 := do
  let working := (Path.mk (← IO.currentDir).toString).segments.filter (!·.isEmpty)
  let files ← takeInPaths ⟨∅, working⟩ c.settingsPaths
  let files ← takeInPaths files (c.paths files)
  let result := c.run files
  writeBack (updates files result.files)
  IO.print result.stdout
  IO.eprint result.stderr
  if let some failure := result.failure then IO.eprintln ("fatal: " ++ failure.text)
  return result.exit

def answer (stop : Stop) : IO UInt32 := do
  match stop with
  | .version => IO.print versionText
  | .help => IO.print helpText
  | stop =>
    if let some complaint := stop.complaint? then IO.eprint ("error: " ++ complaint ++ "\n\n")
    IO.eprint helpText
  return stop.exitCode

end CommitCharts.CommandLine

open CommitCharts.CommandLine in
def main (args : List String) : IO UInt32 := do
  match Invocation.ofArguments (← IO.getEnv "PERFTREND_DB") args with
  | .error stop => answer stop
  | .ok invocation => perform invocation.command
