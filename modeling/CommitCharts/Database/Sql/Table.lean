import CommitCharts.Database.Image.Tree
import CommitCharts.Database.Sql.Relation

/-!
# CommitCharts.Database.Sql.Table — the rows of tables

A row keeps the values of its table's columns except those that are computed.  A row that is older than a column
lacks its value, and the column shows its default.
-/

namespace CommitCharts.Database.Sql

def Column.isVirtual (c : Column) : Bool := c.generated.any (!·.stored)

/-- The columns whose values are kept in the rows, in the order in which they are kept: key columns first. -/
def Table.stored (t : Table) : List Nat :=
  let kept := (t.columns.zipIdx.filter (!·.1.isVirtual)).map (·.2)
  match t.key with
  | some key => key ++ kept.filter (!key.contains ·)
  | none => kept

/-- The value that a column has in rows that are older than the column. -/
def defaultValue (a : Affinity) : Expr → Value
  | .unary .plus e => defaultValue a e
  | .unary .minus (.number text) => numberIn a true text
  | .unary .minus e => a.apply (negate (defaultValue a e))
  | .number text => numberIn a false text
  | .value v => a.apply v
  | .cast e b => a.apply (castTo b (defaultValue b e))
  | .column none name double =>
    if !double && sameName name "true" then a.apply (ofBool true)
    else if !double && sameName name "false" then a.apply (ofBool false)
    else a.apply (.text name)
  | _ => .null
where
  /-- A number as text, unless it is an integer, is what it is written as. -/
  numberIn (a : Affinity) (negative : Bool) (text : String) : Value :=
    match literal negative text with
    | .integer n => if Int32.minValue.toInt ≤ n.toInt ∧ n.toInt ≤ Int32.maxValue.toInt then a.apply (.integer n)
      else written a negative text
    | _ => written a negative text
  written (a : Affinity) (negative : Bool) (text : String) : Value :=
    (if a = .blob then Affinity.numeric else a).apply (.text ((if negative then "-" else "") ++ text))

/-- What a column shows of a value that is kept, if there is one. -/
def Column.shown (c : Column) (kept : Option Value) : Value :=
  let v := match kept, c.default with
    | some v, _ => v
    | none, some e => defaultValue c.affinity e
    | none, none => .null
  if c.affinity = .real then asReal v else v

def Table.fields (t : Table) : List Field :=
  (t.columns.map fun c => { table := t.name, name := c.name, affinity := c.affinity, collation := some c.collation })
    ++ if t.key.isNone then
      [{ table := t.name, name := "rowid", affinity := .integer, collation := none, isHidden := true }]
    else []

/-- The values of a row before any are computed. -/
def Table.kept (t : Table) (number : Int64) (values : List Value) : List Value :=
  let stored := t.stored
  (t.columns.zipIdx.map fun (c, i) =>
    if t.numberColumn = some i then .integer number
    else if c.isVirtual then .null
    else c.shown ((stored.idxOf? i).bind (values[·]?)))
    ++ if t.key.isNone then [.integer number] else []

/-- The columns that are computed whenever a row is read. -/
def Table.computed (t : Table) : List (Nat × Affinity × Expr) :=
  t.columns.zipIdx.filterMap fun (c, i) =>
    match c.generated with
    | some g => if g.stored then none else (g.e.resolve t.fields).toOption.map fun e => (i, c.affinity, e)
    | none => none

/-- The value of a computed column.  In a column of floats, whole numbers of up to six bytes count as integers. -/
def computedValue (a : Affinity) (v : Value) : Value :=
  match a, v.asInteger with
  | .real, .integer n =>
    if -(Nat.pow 2 47 : Int) ≤ n.toInt ∧ n.toInt < Nat.pow 2 47 then .integer n else .real n.toFloat
  | a, _ => a.apply v

/-- A row with its computed columns.  They may depend on one another, so they are computed once for each. -/
def compute (e : Encoding) (columns : List (Nat × Affinity × Expr)) (row : List Value) : List Value :=
  columns.foldl (fun row _ => columns.foldl (fun row c => row.set c.1 (computedValue c.2.1 (c.2.2.eval e row))) row)
    row

/-- How many of the values that rows keep are needed for some columns; all if columns are computed. -/
def Table.needed (t : Table) (wanted : List String) : Nat :=
  if t.computed.isEmpty then
    (t.stored.zipIdx.filter fun (i, _) => (t.columns[i]?).any fun c => wanted.any (sameName c.name)).foldl
      (fun n p => max n (p.2 + 1)) 0
  else t.stored.length

/-- The rows of a table whose tree starts on a page.  Only the wanted columns need to be in order. -/
def Table.relation (img : Image) (t : Table) (root : Nat) (wanted : Option (List String)) : Relation :=
  { fields := t.fields
    rows := do
      let kind := if t.key.isSome then Image.TreeKind.keyed else .numbered
      let computed := t.computed
      let needed := (wanted.map t.needed).getD t.stored.length
      (← img.rows kind root).mapM fun r => do
        let values ← Image.rowValues img.encoding r.payload needed
        return compute img.encoding computed (t.kept r.number values) }

end CommitCharts.Database.Sql
