import CommitCharts.Database.Sql.Query

/-!
# CommitCharts.Database.Sql.Definition — reading definitions of tables and views

A table is defined by its columns and by rules on them.  A column that holds integers and is the key of its table
is the number of the row.
-/

namespace CommitCharts.Database.Sql

namespace Parser

/-- A column and what its rules say so far. -/
structure Draft where
  column : Column
  type : String
  isKey : Bool := false
  descending : Bool := false

/-- Whether a column of this type can be the number of the row. -/
def Draft.isInteger (d : Draft) : Bool := fold d.type == "integer"

def skipConflict : Parser Unit := do
  if ← takesWords ["on", "conflict"] then skip

/-- A direction of a key. -/
def takesDescending : Parser Bool := do
  if ← takesWord "asc" then return false else takesWord "desc"

/-- What a reference to another table does when that changes. -/
def referenceRule? : Parser (Option Unit) := do
  if ← takesWord "on" then
    skip
    if ← takesWord "set" then skip
    else if ← takesWord "no" then skip
    else skip
    return some ()
  else if ← takesWord "match" then
    skip
    return some ()
  else return none

def skipReference : Parser Unit := do
  let _ ← name
  if isSign "(" (← peek) then skipBrackets
  let _ ← many referenceRule? (← get).length.succ

/-- When a reference is checked. -/
def takesDeferral : Parser Bool := do
  if (← takesWords ["not", "deferrable"]) || (← takesWord "deferrable") then
    if ← takesWord "initially" then skip
    return true
  else return false

/-- A default, which is a literal, a name, or an expression in brackets. -/
def default : Parser Expr := do operand (4 * (← get).length + 4)

def generated : Parser Generated := do
  sign "("
  let e ← expression
  sign ")"
  if ← takesWord "stored" then return ⟨e, true⟩
  else
    let _ ← takesWord "virtual"
    return ⟨e, false⟩

/-- The draft after the next rule of its column, if there is one. -/
def columnRule? (d : Draft) : Parser (Option Draft) := do
  if ← takesWord "constraint" then
    let _ ← name
    return some d
  else if (← takesWords ["not", "null"]) || (← takesWord "null") then
    skipConflict
    return some d
  else if ← takesWords ["primary", "key"] then
    let descending ← takesDescending
    skipConflict
    let _ ← takesWord "autoincrement"
    return some { d with isKey := true, descending }
  else if ← takesWord "unique" then
    skipConflict
    return some d
  else if ← takesWord "check" then
    skipBrackets
    return some d
  else if ← takesWord "references" then
    skipReference
    return some d
  else if ← takesDeferral then return some d
  else if ← takesWord "collate" then return some { d with column := { d.column with collation := ← collation } }
  else if ← takesWord "default" then return some { d with column := { d.column with default := some (← default) } }
  else if (← takesWords ["generated", "always", "as"]) || (← takesWord "as") then
    return some { d with column := { d.column with generated := some (← generated) } }
  else return none

def columnRules : Nat → Draft → Parser Draft
  | 0, _ => fail
  | fuel + 1, d => do
    match ← columnRule? d with
    | some d => columnRules fuel d
    | none => return d

def column : Parser Draft := do
  let n ← name
  let type ← typeName
  columnRules (← get).length.succ { column := { name := n, affinity := affinityOf type }, type }

/-- A column of a key. -/
def keyColumn : Parser String := do
  let n ← name
  if ← takesWord "collate" then skip
  let _ ← takesDescending
  return n

/-- The columns of the key that the next rule of a table names, if there is such a rule; another rule names none. -/
def tableRule? : Parser (Option (Option (List String))) := do
  if ← takesWord "constraint" then
    let _ ← name
    return some none
  else if ← takesWords ["primary", "key"] then
    sign "("
    let names ← commaSeparated keyColumn (← get).length.succ
    let _ ← takesWord "autoincrement"
    sign ")"
    skipConflict
    return some (some names)
  else if ← takesWord "unique" then
    skipBrackets
    skipConflict
    return some none
  else if ← takesWord "check" then
    skipBrackets
    skipConflict
    return some none
  else if ← takesWords ["foreign", "key"] then
    skipBrackets
    word "references"
    skipReference
    return some none
  else if ← takesDeferral then return some none
  else return none

/-- The columns and the key in the brackets of a table.  Between its rules the commas may be missing. -/
def body : Nat → Parser (List Draft × Option (List String))
  | 0 => fail
  | fuel + 1 => do
    match ← tableRule? with
    | some key =>
      let _ ← takesSign ","
      if ← takesSign ")" then return ([], key)
      let (ds, later) ← body fuel
      return (ds, key.or later)
    | none =>
      let d ← column
      if ← takesSign ")" then return ([d], none)
      sign ","
      let (ds, key) ← body fuel
      return (d :: ds, key)

/-- Whether a table has row numbers, and whether its types are strict. -/
def options : Nat → Parser (Bool × Bool)
  | 0 => fail
  | fuel + 1 => do
    if ← takesWords ["without", "rowid"] then return (false, (← options fuel).2)
    else if ← takesWord "strict" then return ((← options fuel).1, true)
    else if ← takesSign "," then options fuel
    else return (true, false)

/-- In a strict table, a column of any type keeps values as they are. -/
def Draft.toColumn (strict : Bool) (d : Draft) : Column :=
  if strict && fold d.type == "any" then { d.column with affinity := .blob } else d.column

def indexOf? (ds : List Draft) (n : String) : Option Nat := ds.findIdx? fun d => sameName d.column.name n

/-- A table of columns with a key that may be named behind them. -/
def tableOf (name : String) (ds : List Draft) (key : Option (List String)) (numbered strict : Bool) : Table :=
  let columns := ds.map (Draft.toColumn strict)
  if numbered then
    let number := match key with
      | some [n] => (indexOf? ds n).filter fun i => ds[i]?.any Draft.isInteger
      | some _ => none
      | none => ds.findIdx? fun d => d.isKey && !d.descending && d.isInteger
    { name, columns, numberColumn := number }
  else
    let key := match key with
      | some names => names.filterMap (indexOf? ds)
      | none => (ds.findIdx? Draft.isKey).toList
    { name, columns, key := some key.eraseDups }

/-- The end of a statement. -/
def ending : Parser Unit := do
  let _ ← takesSign ";"
  check (← get).isEmpty

def table : Parser Sql.Table := do
  let n ← qualifiedName
  sign "("
  let (ds, key) ← body (← get).length.succ
  let (numbered, strict) ← options (← get).length.succ
  ending
  return tableOf n ds key numbered strict

def view : Parser View := do
  let n ← qualifiedName
  let columns ← if ← takesSign "(" then commaSeparated name (← get).length.succ <* sign ")" else pure []
  word "as"
  let q ← query (4 * (← get).length + 4)
  ending
  return ⟨n, columns, q⟩

end Parser

/-- What a statement makes. -/
inductive Statement where
  | table (t : Table)
  | view (v : View)
  /-- Something that no rows are read from. -/
  | other
  /-- The statement cannot be understood. -/
  | faulty (detail : String)

namespace Statement

/-- The fault of a statement at a token or at its end. -/
def faultAt : Option Token → Statement
  | some token => .faulty ("near \"" ++ token.source ++ "\": syntax error")
  | none => .faulty "incomplete input"

/-- The words behind `create` that lead to neither a table nor a view that is understood. -/
def otherWords : List String := ["index", "unique", "trigger", "virtual", "temp", "temporary"]

def ofTokens (tokens : List Token) : Statement :=
  match tokens with
  | [] => .other
  | first :: rest =>
    if !Parser.isWord "create" (some first) then faultAt (some first)
    else if Parser.isWord "table" rest.head? then
      match Parser.table.run rest.tail with
      | .ok (t, _) => .table t
      | .error place => faultAt place
    else if Parser.isWord "view" rest.head? then
      match Parser.view.run rest.tail with
      | .ok (v, _) => .view v
      | .error _ => .other
    else if otherWords.any fun w => Parser.isWord w rest.head? then .other
    else faultAt rest.head?

def ofText (statement : String) : Statement :=
  match Token.ofText statement with
  | some tokens => ofTokens tokens
  | none => .other

end Statement

end CommitCharts.Database.Sql
