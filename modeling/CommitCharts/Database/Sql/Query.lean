import CommitCharts.Database.Sql.Parser

/-!
# CommitCharts.Database.Sql.Query — reading queries

A query selects values from tables, or lists them.  Queries may be put together, ordered and cut, and one may stand
in brackets in the place of a table.
-/

namespace CommitCharts.Database.Sql.Parser

/-- The name behind `as`, or a name on its own. -/
def label? : Parser (Option String) := do
  if ← takesWord "as" then return some (← name) else name?

/-- A name, perhaps behind that of the database. -/
def qualifiedName : Parser String := do
  let n ← name
  if ← takesSign "." then name else return n

def output : Parser Output := do
  match ← get with
  | .sign "*" :: rest =>
    set rest
    return .all
  | n :: .sign "." :: .sign "*" :: rest =>
    let some table := nameOf? n | fail
    set rest
    return .allOf table
  | _ =>
    let e ← expression
    return .value e (← label?)

/-- How the next table is joined, if there is one. -/
def joinKind? : Parser (Option JoinKind) := do
  if ← takesSign "," then return some .inner
  else if ← takesWord "join" then return some .inner
  else if ← takesWords ["inner", "join"] then return some .inner
  else if ← takesWords ["cross", "join"] then return some .inner
  else if ← takesWords ["left", "join"] then return some .left
  else if ← takesWords ["left", "outer", "join"] then return some .left
  else return none

/-- An expression behind a keyword, if the keyword is next. -/
def expressionAfter (w : String) : Parser (Option Expr) := do
  if ← takesWord w then return some (← expression) else return none

def orderTerm : Parser OrderTerm := do
  let e ← expression
  if ← takesWord "desc" then return ⟨e, true⟩
  else
    let _ ← takesWord "asc"
    return ⟨e, false⟩

def compound? : Parser (Option Compound) := do
  if ← takesWords ["union", "all"] then return some .unionAll
  else if ← takesWord "union" then return some .union
  else if ← takesWord "intersect" then return some .intersect
  else if ← takesWord "except" then return some .except
  else return none

/-- Put an order and a limit around a query if they are next. -/
def ordered (q : Query) : Parser Query := do
  let n := (← get).length.succ
  let terms ← if ← takesWords ["order", "by"] then commaSeparated orderTerm n else pure []
  let limit ← expressionAfter "limit"
  let offset ← if limit.isSome then expressionAfter "offset" else pure none
  if terms.isEmpty && limit.isNone then return q else return .ordered q terms limit offset

mutual

def query : Nat → Parser Query
  | 0 => fail
  | fuel + 1 => do
    let first ← core fuel
    ordered (← compounds fuel first)

/-- Put further queries together with one. -/
def compounds : Nat → Query → Parser Query
  | 0, _ => fail
  | fuel + 1, q => do
    match ← compound? with
    | some op => compounds fuel (.compound op q (← core fuel))
    | none => return q

/-- A query on its own. -/
def core : Nat → Parser Query
  | 0 => fail
  | fuel + 1 => do
    let n := (← get).length.succ
    if ← takesWord "values" then
      let row : Parser (List Expr) := do
        sign "("
        let es ← commaSeparated expression n
        sign ")"
        return es
      return .values (← commaSeparated row n)
    else
      word "select"
      let distinct ← takesWord "distinct"
      let _ ← takesWord "all"
      let outputs ← commaSeparated output n
      let sources ← if ← takesWord "from" then sources fuel .inner else pure []
      return .select distinct outputs sources (← expressionAfter "where")

def sources : Nat → JoinKind → Parser (List Source)
  | 0, _ => fail
  | fuel + 1, join => do
    let s ← source fuel join
    match ← joinKind? with
    | some join => return s :: (← sources fuel join)
    | none => return [s]

def source : Nat → JoinKind → Parser Source
  | 0, _ => fail
  | fuel + 1, join => do
    if ← takesSign "(" then
      let q ← query fuel
      sign ")"
      let label ← label?
      return .query q (label.getD "") join (← expressionAfter "on")
    else
      let n ← qualifiedName
      let label ← label?
      return .table n label join (← expressionAfter "on")

end

end CommitCharts.Database.Sql.Parser
