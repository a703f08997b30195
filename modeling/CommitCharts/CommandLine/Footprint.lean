import CommitCharts.CommandLine.Run

/-!
# CommitCharts.CommandLine.Footprint — the files that a command touches

A command reads its settings file, then the database that the settings name with the files beside it, and it
writes charts at the paths of the standard plan.  Only the locations on the way to these matter to it.
-/

namespace CommitCharts

/-- The locations that names lead through from a directory, as long as there is no link among them. -/
def FileTree.course (l : Location) : List String → List Location
  | [] => []
  | name :: names =>
    if name.isEmpty || name == "." then course l names
    else if name == ".." then course l.dropLast names
    else (l ++ [name]) :: course (l ++ [name]) names

/-- The locations on the way to a path. -/
def FileTree.locations {α : Type} (t : FileTree α) (p : Path) : List Location :=
  FileTree.course (t.start p) p.segments

/-- An index of nothing.  The next reader of the log makes its own. -/
def clearedIndex : ByteArray := ⟨(List.replicate 32768 0).toArray⟩

/-- What has to be done at a location to bring it up to date. -/
inductive Update where
  | directory
  | file (bytes : ByteArray)
  | removal

/-- How a node of the later tree differs from what stood in its place. -/
def updateOf? (before : Option (FileTree.Node Content)) : FileTree.Node Content → Option Update
  | .directory => if before.isNone then some .directory else none
  | .file .index => some (.file clearedIndex)
  | .file content =>
    match content.bytes?, before with
    | none, _ => none
    | some b, some (.file old) => if old.bytes?.any (·.data == b.data) then none else some (.file b)
    | some b, _ => some (.file b)

/-- What is new in the later of two trees, directories before what is in them, and then what is gone. -/
def updates (before after : Files) : List (Location × Update) :=
  (after.nodes.entries.filterMap fun e => (updateOf? (before.nodes.get? e.1) e.2).map (e.1, ·)) ++
    (before.nodes.entries.filter fun e => !after.nodes.contains e.1).map fun e => (e.1, .removal)

namespace CommandLine

/-- The settings file of a command. -/
def Command.settingsPaths (c : Command) : List Path := c.storeOptions.config.toList

/-- The paths of a database and of the files beside it. -/
def databasePaths (p : Path) : List Path :=
  match Database.Address.ofText p.text with
  | .ok { file := some file, .. } => p :: ["", "-journal", "-wal", "-shm", ".lock"].map fun ending => ⟨file ++ ending⟩
  | _ => [p]

/-- The paths of the database and of the charts, once the settings file is known. -/
def Command.paths (files : Files) : Command → List Path
  | .render o docsDir suiteDir =>
    match renderConfig files o docsDir suiteDir with
    | .error _ => []
    | .ok c =>
      databasePaths c.database ++ (Plan.standard .reference c.docsDir c.suiteDir c.chartSizes).jobs.map (·.path)
  | .show o _ =>
    match buildConfig files o with
    | .error _ => []
    | .ok c => databasePaths c.database

end CommandLine

end CommitCharts
