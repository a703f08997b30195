import CommitCharts.Database.Sql.Definition
import CommitCharts.Database.Sql.Select
import CommitCharts.Database.Sql.Table

/-!
# CommitCharts.Database.Schema — the tables and views of a database file

The tree that starts on the first page lists all things in the file: the kind of thing, its name, the table that it
belongs to, the page where its own tree starts and the statement that made it.
-/

namespace CommitCharts.Database

open Sql

/-- A table or a view in a database file. -/
inductive Item where
  | table (t : Sql.Table) (root : Nat)
  | view (v : View)

/-- Tables and views by name. -/
structure Schema where
  items : List (String × Item)

namespace Schema

/-! ### Reading the list -/

/-- A value of the list as text, up to its first zero. -/
def textAt (values : List Value) (i : Nat) : Option String :=
  ((values[i]?).bind textOf?).map fun b => Text.lossy (b.takeWhile (· ≠ 0))

/-- Whether a statement can be one that makes something. -/
def isCreation (statement : String) : Bool := "cr".toList.isPrefixOf (fold statement).toList

/-- A number of a page. -/
def pageNumber? (s : String) : Option Nat :=
  if s.isEmpty ∨ ¬ s.toList.all Char.isDigit then none else s.toNat?.filter (· < UInt32.size)

/-- Whether an index without a statement belongs to a table: it is named for it. -/
def isOwned (s : Schema) (index : String) : Bool :=
  s.items.any fun item => (fold ("sqlite_autoindex_" ++ item.1 ++ "_")).toList.isPrefixOf (fold index).toList

/-- Take up a row of the list. -/
def add (img : Image) (s : Schema) (values : List Value) : Except Fault Schema := do
  let name := textAt values 1
  let malformed (detail : String) : Fault := .malformedSchema (name.getD "?") detail
  let some page := textAt values 3 | throw (malformed "")
  let statement := (textAt values 4).getD ""
  if isCreation statement then
    let some root := (pageNumber? page).filter (· ≤ img.pages) | throw (malformed "invalid rootpage")
    let taken (kind own : String) (item : Item) : Except Fault Schema := do
      let isListed := (textAt values 0).any (sameName kind) && name.any (sameName own) &&
        (textAt values 2).any (sameName own)
      Image.expect isListed (malformed "")
      match s.items.find? (sameName ·.1 own) with
      | none => return ⟨s.items ++ [(own, item)]⟩
      | some (_, .table ..) => throw (malformed ("table " ++ own ++ " already exists"))
      | some (_, .view _) => throw (malformed ("view " ++ own ++ " already exists"))
    match Statement.ofText statement with
    | .table t => taken "table" t.name (.table t root)
    | .view v => taken "view" v.name (.view v)
    | .other => return s
    | .faulty detail => throw (malformed detail)
  else
    Image.expect statement.isEmpty (malformed "")
    let some index := name | throw (malformed "")
    Image.expect (s.isOwned index) (malformed "orphan index")
    return s

def ofImage (img : Image) : Except Fault Schema := do
  (← img.rows .numbered 1).foldlM (fun s r => do add img s (← Image.rowValues img.encoding r.payload 5)) ⟨[]⟩

/-! ### Looking things up -/

def find? (s : Schema) (name : String) : Option Item := (s.items.find? (sameName ·.1 name)).map (·.2)

/-- The fields of a view under the names that it gives them. -/
def renamed (v : View) (r : Relation) : Except QueryError Relation :=
  if v.columns.isEmpty then .ok r
  else if v.columns.length = r.fields.length then
    .ok { r with fields := r.fields.zipWith (fun f name => { f with name }) v.columns }
  else .error (.invalid ("expected " ++ toString v.columns.length ++ " columns for '" ++ v.name ++ "' but got " ++
    toString r.fields.length))

/-- The rows of a table or a view.  `inside` are the views that are being read, `depth` at most. -/
def relation (img : Image) (s : Schema) (wanted : List String) : Nat → List String → String →
    Except QueryError Relation
  | 0, _, name => .error (.noTable name)
  | depth + 1, inside, name =>
    match s.find? name with
    | none => .error (.noTable (if inside.isEmpty then name else "main." ++ name))
    | some (.table t root) => .ok (t.relation img root (if inside.isEmpty then some wanted else none))
    | some (.view v) =>
      if inside.contains (fold v.name) then .error (.invalid ("view " ++ v.name ++ " is circularly defined"))
      else do
        let env : Environment := ⟨img.encoding, relation img s wanted depth (fold v.name :: inside)⟩
        renamed v (← v.query.selected env).relation

/-- The rows of a table or a view, of which some columns are wanted. -/
def lookup (img : Image) (s : Schema) (name : String) (wanted : List String) : Except QueryError Relation :=
  s.relation img wanted (s.items.length + 1) [] name

end Schema

end CommitCharts.Database
