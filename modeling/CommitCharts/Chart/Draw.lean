import CommitCharts.Chart.Overview
import CommitCharts.Chart.Trend
import CommitCharts.Content

/-!
# CommitCharts.Chart.Draw — charts as drawings and as files

A chart needs two commits at least.  With fewer there is no drawing, whatever the chart; otherwise a trend
has to name a test of the catalog.  A chart is drawn in memory (`text?`) or into a file (`render`), which is written
when the drawing has come to an end.
-/

namespace CommitCharts.Chart

inductive Error where
  | axisRange (lo hi : Float)
  | unknownTest (id : TestId)
  /-- The drawing could not be put where it belongs. -/
  | plot (reason : String)
  /-- The directory of the chart could not be made. -/
  | directory (fault : Fault)

def Error.message : Error → String
  | .axisRange lo hi => "invalid axis range " ++ Decimal.plain lo ++ ".." ++ Decimal.plain hi
  | .unknownTest id => "test " ++ toString id ++ " is not in the catalog"
  | .plot reason => "plot render error: " ++ reason
  | .directory fault => fault.message

/-- The fewest commits that make a chart. -/
def minCommits : Nat := 2

def checkRange (r : Axis.Range) : Except Error Unit :=
  if r.isProper then .ok () else .error (.axisRange r.lo r.hi)

/-- What would otherwise fail once a drawing has been begun. -/
def checkSpec (catalog : Catalog) : Spec → Except Error Unit
  | .overview .. => .ok ()
  | .trend id _ => if catalog.contains id then .ok () else .error (.unknownTest id)

/-- Draw a chart.  Whatever can fail is looked at before the first element is drawn. -/
def draw (s : Series) (catalog : Catalog) : Spec → Except Error Svg.Drawing
  | .overview title style size => do
    checkRange (Overview.range s catalog)
    return Overview.draw s catalog title style size
  | .trend id size =>
    match catalog.get? id with
    | none => .error (.unknownTest id)
    | some t => do
      checkRange (Trend.range s t)
      return Trend.draw s t size

/-- The drawing of a chart in memory; none if there are too few commits. -/
def draw? (s : Series) (catalog : Catalog) (spec : Spec) : Except Error (Option Svg.Drawing) :=
  if s.size < minCommits then .ok none
  else do
    checkSpec catalog spec
    return some (← draw s catalog spec)

/-- The text of a chart; none if there are too few commits. -/
def text? (s : Series) (catalog : Catalog) (spec : Spec) : Except Error (Option String) :=
  (draw? s catalog spec).map fun d => d.map Svg.Drawing.render

/-- What became of a chart that did not fail. -/
inductive Outcome where
  | rendered (path : Path)
  | insufficient (commits : Nat)
  deriving DecidableEq, Repr

def Outcome.isRendered : Outcome → Bool
  | .rendered _ => true
  | .insufficient _ => false

/-- The error of a chart that cannot be written. -/
def unwritten (fault : Fault) : Error := .plot ("backend error: Drawing backend error: " ++ fault.message)

/-- Write a drawing to a file. -/
def save (files : Files) (d : Svg.Drawing) (path : Path) : Files × Except Error Unit :=
  match files.write path (.ofText d.render) with
  | .ok files => (files, .ok ())
  | .error fault => (files, .error (unwritten fault))

/-- Put a chart into a file.  A drawing that fails has no element yet, but what there is of it is saved all the same. -/
def render (files : Files) (s : Series) (catalog : Catalog) (spec : Spec) (path : Path) :
    Files × Except Error Outcome :=
  if s.size < minCommits then (files, .ok (.insufficient s.size))
  else
    match checkSpec catalog spec with
    | .error e => (files, .error e)
    | .ok () =>
      match draw s catalog spec with
      | .error e => ((save files ⟨spec.size.width, spec.size.height, []⟩ path).1, .error e)
      | .ok d =>
        match save files d path with
        | (files, .error e) => (files, .error e)
        | (files, .ok ()) => (files, .ok (.rendered path))

end CommitCharts.Chart
