import CommitCharts.Database.Sql.Relation

/-!
# CommitCharts.Database.Sql.Select — the rows of queries

A query takes rows from tables, keeps those for which its condition holds, and computes its outputs from each.  An
order may look at the outputs and at the fields that they come from.
-/

namespace CommitCharts.Database.Sql

/-- Where a query finds its tables, and how texts are stored. -/
structure Environment where
  encoding : Encoding
  table? : String → Except QueryError Relation

/-- Outputs of a query, each with the row that it comes from. -/
structure Selected where
  outputs : List Field
  scope : List Field
  rows : Except Fault (List (List Value × List Value))

namespace Selected

def ofRelation (r : Relation) : Selected := ⟨r.fields, [], r.rows.map (·.map (·, []))⟩

def relation (s : Selected) : Relation := ⟨s.outputs, s.rows.map (·.map (·.1))⟩

/-- The name of an output without one: that of its column. -/
def nameOf (scope : List Field) : Expr → String
  | .field i _ _ => ((scope[i]?).map Field.name).getD ""
  | _ => ""

/-- The outputs that a column of a query stands for. -/
def expand (scope : List Field) : Output → Except QueryError (List (String × Expr))
  | .all =>
    if scope.isEmpty then .error (.invalid "no tables specified")
    else .ok ((placesOf scope (!·.isHidden)).map fun i => (nameOf scope (fieldAt scope i), fieldAt scope i))
  | .allOf table =>
    match placesOf scope fun f => !f.isHidden && sameName f.table table with
    | [] => .error (.noTable table)
    | places => .ok (places.map fun i => (nameOf scope (fieldAt scope i), fieldAt scope i))
  | .value x name => do
    let x ← x.resolve scope
    return [(name.getD (nameOf scope x), x)]

def compute (e : Encoding) (outputs : List Output) (r : Relation) : Except QueryError Selected := do
  let columns := (← outputs.mapM (expand r.fields)).flatten
  return { outputs := columns.map fun c => fieldOf c.1 c.2
           scope := r.fields
           rows := r.rows.map (·.map fun row => (columns.map fun c => c.2.eval e row, row)) }

/-- The rows without those whose outputs came before. -/
def distinct (e : Encoding) (s : Selected) : Selected :=
  let isNew (seen : List (List Value × List Value)) (row : List Value × List Value) : Bool :=
    seen.all fun other => compareRows e s.outputs row.1 other.1 != .eq
  { s with rows := s.rows.map fun rows =>
      (rows.foldl (fun seen row => if isNew seen row then row :: seen else seen) []).reverse }

/-- The value by which a term of an order sorts: an output by its number or name, or else any expression. -/
def sortKey (s : Selected) (t : OrderTerm) : Except QueryError Expr :=
  let shifted := s.outputs.map ({ · with isHidden := true }) ++ s.scope
  let output? := match t.e with
    | .number n => (n.toNat?.map (· - 1)).filter (· < s.outputs.length)
    | .column none name _ => s.outputs.findIdx? fun f => sameName f.name name
    | _ => none
  match output? with
  | some i => .ok (fieldAt s.outputs i)
  | none => t.e.resolve shifted

def sorted (e : Encoding) (terms : List OrderTerm) (s : Selected) : Except QueryError Selected := do
  let keys : List (Expr × Bool) ← terms.mapM fun t => return (← s.sortKey t, t.descending)
  let before (a b : List Value × List Value) : Bool :=
    (keys.foldl (fun (o : Ordering) k =>
      let c := k.1.collation?.getD .binary
      let x := k.1.eval e (a.1 ++ a.2)
      let y := k.1.eval e (b.1 ++ b.2)
      o.then (if k.2 then compareValues e c y x else compareValues e c x y)) .eq).isLE
  return { s with rows := s.rows.map (·.mergeSort before) }

/-- A part of the rows; a negative limit is none. -/
def cut (e : Encoding) (limit offset : Option Expr) (s : Selected) : Except QueryError Selected := do
  let number (x : Expr) : Except QueryError Int := return (toInteger ((← x.resolve []).eval e [])).toInt
  let skipped := match offset with
    | some x => number x
    | none => .ok 0
  match limit with
  | none => return s
  | some x =>
    let n ← number x
    let skipped ← skipped
    return { s with rows := s.rows.map fun rows =>
      let rows := rows.drop skipped.toNat
      if n < 0 then rows else rows.take n.toNat }

/-- The rows of two queries put together. -/
def combine (e : Encoding) (op : Compound) (a b : Relation) : Relation :=
  let equal (x y : List Value) : Bool := compareRows e a.fields x y == .eq
  let once (rows : List (List Value)) : List (List Value) :=
    let rows := rows.mergeSort fun x y => (compareRows e a.fields x y).isLE
    (rows.foldl (fun seen row => if seen.head?.any (equal row) then seen else row :: seen) []).reverse
  { a with rows := do
      let left ← a.rows
      let right ← b.rows
      return match op with
        | .unionAll => left ++ right
        | .union => once (left ++ right)
        | .intersect => once (left.filter fun x => right.any (equal x))
        | .except => once (left.filter fun x => !right.any (equal x)) }

end Selected

def Compound.name : Compound → String
  | .unionAll => "UNION ALL"
  | .union => "UNION"
  | .intersect => "INTERSECT"
  | .except => "EXCEPT"

mutual

def Query.selected (env : Environment) : Query → Except QueryError Selected
  | .select distinct outputs sources condition => do
    let scope ← Source.joined env ⟨[], .ok [[]]⟩ sources
    let s ← Selected.compute env.encoding outputs (← scope.filter env.encoding condition)
    return if distinct then s.distinct env.encoding else s
  | .values rows => do
    let width := (rows.head?.map List.length).getD 0
    if rows.any (·.length ≠ width) then throw (.invalid "all VALUES must have the same number of terms")
    let rows ← rows.mapM fun row => row.mapM fun x => return (← x.resolve []).eval env.encoding []
    let fields := (List.range width).map fun i => fieldOf ("column" ++ toString (i + 1)) (.value .null)
    return .ofRelation ⟨fields, .ok rows⟩
  | .compound op a b => do
    let left ← a.selected env
    let right ← b.selected env
    if left.outputs.length ≠ right.outputs.length then
      throw (.invalid ("SELECTs to the left and right of " ++ op.name ++
        " do not have the same number of result columns"))
    return .ofRelation (Selected.combine env.encoding op left.relation right.relation)
  | .ordered q terms limit offset => do
    let s ← q.selected env
    (← s.sorted env.encoding terms).cut env.encoding limit offset

def Source.relation (env : Environment) : Source → Except QueryError Relation
  | .table name label _ _ => return (← env.table? name).labelled (label.getD name)
  | .query q label _ _ => return (← q.selected env).relation.labelled label

/-- Rows joined to those of further tables. -/
def Source.joined (env : Environment) (r : Relation) : List Source → Except QueryError Relation
  | [] => return r
  | s :: rest => do
    let next ← s.relation env
    let (kind, condition) := match s with
      | .table _ _ kind condition => (kind, condition)
      | .query _ _ kind condition => (kind, condition)
    Source.joined env (← r.join env.encoding kind condition next) rest

end

end CommitCharts.Database.Sql
