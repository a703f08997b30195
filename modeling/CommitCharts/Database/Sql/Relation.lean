import CommitCharts.Database.Answer
import CommitCharts.Database.Sql.Eval

/-!
# CommitCharts.Database.Sql.Relation — rows with named fields

Tables and queries yield rows whose fields have names.  The columns in an expression are looked up among the fields
before a row is at hand.
-/

namespace CommitCharts.Database.Sql

structure Field where
  table : String
  name : String
  affinity : Affinity
  collation : Option Collation
  /-- Fields that are found by name only, such as the number of a row. -/
  isHidden : Bool := false

/-- Rows of fields; they may turn out to be unreadable. -/
structure Relation where
  fields : List Field
  rows : Except Fault (List (List Value))

/-! ### Names -/

/-- Whether a name stands for the number of a row where no column has it. -/
def isRowNumber (name : String) : Bool := ["rowid", "oid", "_rowid_"].contains (fold name)

def fieldAt (fields : List Field) (i : Nat) : Expr :=
  match fields[i]? with
  | some f => .field i f.affinity f.collation
  | none => .value .null

/-- The places of the fields that fit a name. -/
def placesOf (fields : List Field) (p : Field → Bool) : List Nat :=
  (fields.zipIdx.filter fun f => p f.1).map (·.2)

/-- Whether fields in several places belong to one table. -/
def sameTable (fields : List Field) (places : List Nat) : Bool :=
  match places.filterMap (fields[·]?) with
  | [] => true
  | f :: fs => fs.all fun g => g.table == f.table

/-- The field that a name stands for. -/
def columnOf (fields : List Field) (table : Option String) (name : String) (double : Bool) : Except QueryError Expr :=
  let fits (f : Field) : Bool := table.all (sameName f.table)
  let full := (table.map (· ++ ".")).getD "" ++ name
  let one (places : List Nat) (otherwise : Except QueryError Expr) : Except QueryError Expr :=
    match places with
    | [] => otherwise
    | i :: _ =>
      if sameTable fields places then .ok (fieldAt fields i) else .error (.invalid ("ambiguous column name: " ++ full))
  one (placesOf fields fun f => fits f && !f.isHidden && sameName f.name name) <|
    one (placesOf fields fun f => fits f && f.isHidden && isRowNumber name && !double) <|
      if table.isNone && double then .ok (.value (.text name))
      else if table.isNone && sameName name "true" then .ok (.value (ofBool true))
      else if table.isNone && sameName name "false" then .ok (.value (ofBool false))
      else .error (.noColumn full "" none)

/-- Demand that a function takes a number of arguments. -/
def checkCall (name : String) (count : Nat) : Except QueryError Unit :=
  match functions.find? (·.1 == name) with
  | none => .error (.invalid ("no such function: " ++ name))
  | some (_, least, most) =>
    if least ≤ count ∧ count ≤ most then .ok ()
    else .error (.invalid ("wrong number of arguments to function " ++ name ++ "()"))

mutual

/-- The expression with its columns looked up. -/
def Expr.resolve (fields : List Field) : Expr → Except QueryError Expr
  | .column table name double => columnOf fields table name double
  | .unary op x => return .unary op (← x.resolve fields)
  | .binary op x y => return .binary op (← x.resolve fields) (← y.resolve fields)
  | .choose branches => return .choose (← Expr.resolveAll fields branches)
  | .cast x a => return .cast (← x.resolve fields) a
  | .collate x c => return .collate (← x.resolve fields) c
  | .call name args => do
    checkCall name args.length
    return .call name (← Expr.resolveAll fields args)
  | e => return e

def Expr.resolveAll (fields : List Field) : List Expr → Except QueryError (List Expr)
  | [] => return []
  | x :: xs => return (← x.resolve fields) :: (← Expr.resolveAll fields xs)

end

/-- A field that holds the value of an expression. -/
def fieldOf (name : String) (e : Expr) : Field :=
  { table := "", name, affinity := e.affinity, collation := e.collation? }

namespace Relation

/-- The visible fields only, as those of a table. -/
def labelled (label : String) (r : Relation) : Relation :=
  { r with fields := r.fields.map ({ · with table := label }) }

/-- The rows for which a condition holds. -/
def filter (e : Encoding) (condition : Option Expr) (r : Relation) : Except QueryError Relation :=
  match condition with
  | none => .ok r
  | some c => do
    let c ← c.resolve r.fields
    return { r with rows := r.rows.map (·.filter fun row => truth? (c.eval e row) = some true) }

/-- Each row of a relation with each of another that a condition allows.  A left join keeps rows without a match. -/
def join (e : Encoding) (kind : JoinKind) (condition : Option Expr) (a b : Relation) : Except QueryError Relation := do
  let fields := a.fields ++ b.fields
  let c ← (condition.getD (.value (ofBool true))).resolve fields
  let rows := do
    let left ← a.rows
    let right ← if left.isEmpty then .ok [] else b.rows
    return left.flatMap fun x =>
      let matching := (right.map (x ++ ·)).filter fun row => truth? (c.eval e row) = some true
      if matching.isEmpty && kind == .left then [x ++ b.fields.map fun _ => .null] else matching
  return ⟨fields, rows⟩

end Relation

/-- The order of rows by their fields. -/
def compareRows (e : Encoding) : List Field → List Value → List Value → Ordering
  | f :: fs, x :: xs, y :: ys =>
    (compareValues e (f.collation.getD .binary) x y).then (compareRows e fs xs ys)
  | _, _, _ => .eq

end CommitCharts.Database.Sql
