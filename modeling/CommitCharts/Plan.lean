import CommitCharts.Chart.Draw

/-!
# CommitCharts.Plan — which charts go where

The standard plan has, for the documentation and for the test suite, an overview and a trend of every test.
Its jobs are done one after another; one that fails does not keep the others from being done.
-/

namespace CommitCharts

inductive Destination where
  | docs
  | suite
  deriving DecidableEq, Repr

namespace Destination

def label : Destination → String
  | .docs => "docs"
  | .suite => "suite"

def overviewStem : Destination → String
  | .docs => "perf_overview"
  | .suite => "perf_comparison"

def overviewTitle : Destination → String
  | .docs => "Emulator Performance Across Recent Commits"
  | .suite => "Performance Comparison Across All Tests"

def legend : Destination → Chart.LegendStyle
  | .docs => .short
  | .suite => .flattened

def trendStem (d : Destination) (id : TestId) (fileWord : String) : String :=
  match d with
  | .docs => "perf_test" ++ toString id ++ "_" ++ fileWord
  | .suite => "perf_trend_" ++ fileWord

end Destination

structure Job where
  destination : Destination
  spec : Chart.Spec
  path : Path
  deriving DecidableEq, Repr

structure ChartSizes where
  overview : Chart.Size := ⟨1200, 600⟩
  trend : Chart.Size := ⟨1000, 500⟩
  deriving DecidableEq, Repr, Inhabited

inductive Status where
  | rendered
  | insufficient (commits : Nat)
  | failed (message : String)
  deriving DecidableEq, Repr

/-- What became of one job. -/
structure JobResult where
  path : Path
  destination : Destination
  status : Status
  deriving DecidableEq, Repr

structure Report where
  charts : List JobResult
  deriving DecidableEq, Repr

namespace Report

def rendered (r : Report) : Nat := r.charts.countP (·.status == .rendered)

def failed (r : Report) : Nat := r.charts.length - r.rendered

def success (r : Report) : Bool := r.charts.all (·.status == .rendered)

end Report

namespace Job

/-- Make the directory of a job, then its chart. -/
def run (files : Files) (s : Series) (catalog : Catalog) (job : Job) :
    Files × Except Chart.Error Chart.Outcome :=
  match job.path.parent? with
  | none => Chart.render files s catalog job.spec job.path
  | some dir =>
    match files.makeDirectories dir with
    | (files, some fault) => (files, .error (.directory fault))
    | (files, none) => Chart.render files s catalog job.spec job.path

def statusOf : Except Chart.Error Chart.Outcome → Status
  | .ok (.rendered _) => .rendered
  | .ok (.insufficient n) => .insufficient n
  | .error e => .failed e.message

end Job

structure Plan where
  jobs : List Job
  deriving DecidableEq, Repr

namespace Plan

def chartPath (dir : Path) (stem : String) : Path := dir.join ⟨stem ++ ".svg"⟩

/-- The charts of one destination: the overview, then the trends in catalog order. -/
def jobsFor (catalog : Catalog) (sizes : ChartSizes) (d : Destination) (dir : Path) : List Job :=
  ⟨d, .overview d.overviewTitle d.legend sizes.overview, chartPath dir d.overviewStem⟩ ::
    catalog.tests.map fun t => ⟨d, .trend t.id sizes.trend, chartPath dir (d.trendStem t.id t.fileWord)⟩

def standard (catalog : Catalog) (docsDir suiteDir : Path) (sizes : ChartSizes) : Plan :=
  ⟨jobsFor catalog sizes .docs docsDir ++ jobsFor catalog sizes .suite suiteDir⟩

def size (p : Plan) : Nat := p.jobs.length

/-- The files and the results after one more job. -/
def step (s : Series) (catalog : Catalog) (state : Files × List JobResult) (job : Job) :
    Files × List JobResult :=
  let (files, result) := job.run state.1 s catalog
  (files, state.2 ++ [⟨job.path, job.destination, Job.statusOf result⟩])

def execute (p : Plan) (files : Files) (s : Series) (catalog : Catalog) : Files × Report :=
  let (files, results) := p.jobs.foldl (step s catalog) (files, [])
  (files, ⟨results⟩)

@[simp] theorem size_standard (catalog : Catalog) (docsDir suiteDir : Path) (sizes : ChartSizes) :
    (standard catalog docsDir suiteDir sizes).size = 2 * (catalog.size + 1) := by
  simp [size, standard, jobsFor, Catalog.size]; omega

end Plan

end CommitCharts
