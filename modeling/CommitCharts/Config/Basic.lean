import CommitCharts.Plan

/-!
# CommitCharts.Config.Basic — settings

Where the database and the chart directories are, how much history to show and how large the charts are.
-/

namespace CommitCharts

structure Config where
  version : UInt32 := 1
  database : Path := ⟨"tests/PerformanceTests/Database/performance.db"⟩
  docsDir : Path := ⟨"doc"⟩
  suiteDir : Path := ⟨"tests/PerformanceTests"⟩
  maxCommits : UInt64 := 10
  overviewSize : Chart.Size := ⟨1200, 600⟩
  trendSize : Chart.Size := ⟨1000, 500⟩
  deriving DecidableEq, Repr, Inhabited

namespace Config

def supportedVersion : UInt32 := 1

/-- Why settings are refused. -/
inductive Rejection where
  | version (found supported : UInt32)
  | invalid (reason : String)
  deriving DecidableEq, Repr

def Rejection.message : Rejection → String
  | .version found supported =>
    "unsupported config version " ++ toString found ++ " (supported: " ++ toString supported ++ ")"
  | .invalid reason => "invalid config: " ++ reason

def checkSize (name : String) (s : Chart.Size) : Except Rejection Unit :=
  if s.width = 0 ∨ s.height = 0 then
    .error (.invalid (name ++ " must be non-zero, got " ++ toString s.width ++ "x" ++ toString s.height))
  else .ok ()

def validate (c : Config) : Except Rejection Unit := do
  if c.version ≠ supportedVersion then throw (.version c.version supportedVersion)
  if c.maxCommits = 0 then throw (.invalid "max_commits must be positive")
  checkSize "overview_size" c.overviewSize
  checkSize "trend_size" c.trendSize

/-- A relative path is taken from `root`; an absolute one stays as it is. -/
def rebase (root p : Path) : Path := if p.isAbsolute then p else root.join p

/-- The settings with all paths taken from `root`. -/
def resolve (c : Config) (root : Path) : Config :=
  { c with
    database := rebase root c.database
    docsDir := rebase root c.docsDir
    suiteDir := rebase root c.suiteDir }

def chartSizes (c : Config) : ChartSizes := ⟨c.overviewSize, c.trendSize⟩

end Config

end CommitCharts
