import CommitCharts.Database.Sql.Expr
import CommitCharts.Database.Sql.Token

/-!
# CommitCharts.Database.Sql.Parser — reading expressions

A parser takes tokens from the front of a list, and it fails at the one that it cannot take.  Operators have levels:
those of a higher level bind more tightly, and operators of one level group from the left.
-/

namespace CommitCharts.Database.Sql

/-- A parser fails at a token or at the end. -/
abbrev Parser := StateT (List Token) (Except (Option Token))

namespace Parser

/-- Fail at the next token. -/
def fail {α : Type} : Parser α := fun tokens => .error tokens.head?

def check (condition : Bool) : Parser Unit := if condition then pure () else fail

def peek : Parser (Option Token) := do return (← get).head?

def skip : Parser Unit := modify List.tail

def isSign (s : String) : Option Token → Bool
  | some (.sign t) => t == s
  | _ => false

def isWord (w : String) : Option Token → Bool
  | some (.word t) => sameName t w
  | _ => false

/-- Take a sign if it is next. -/
def takesSign (s : String) : Parser Bool := do
  if isSign s (← peek) then
    skip
    return true
  else return false

/-- Take a keyword if it is next. -/
def takesWord (w : String) : Parser Bool := do
  if isWord w (← peek) then
    skip
    return true
  else return false

/-- Take keywords if all of them are next. -/
def takesWords (ws : List String) : Parser Bool := do
  let tokens ← get
  if (ws.zipIdx.all fun p => isWord p.1 tokens[p.2]?) then
    set (tokens.drop ws.length)
    return true
  else return false

def sign (s : String) : Parser Unit := do check (← takesSign s)

def word (w : String) : Parser Unit := do check (← takesWord w)

/-- Words that are no names. -/
def reserved : List String :=
  ["add", "all", "alter", "and", "as", "autoincrement", "between", "case", "check", "collate", "commit",
    "constraint", "create", "cross", "default", "deferrable", "delete", "distinct", "drop", "else", "escape",
    "except", "exists", "foreign", "from", "full", "group", "having", "in", "index", "inner", "insert",
    "intersect", "into", "is", "isnull", "join", "left", "limit", "natural", "not", "notnull", "null", "on", "or",
    "order", "outer", "primary", "references", "returning", "right", "select", "set", "table", "then", "to",
    "transaction", "union", "unique", "update", "using", "values", "when", "where"]

def isReserved (w : String) : Bool := reserved.contains (fold w)

/-- The name that a token stands for. -/
def nameOf? : Token → Option String
  | .word w => if isReserved w then none else some w
  | .quoted s _ | .text s => some s
  | _ => none

def name : Parser String := do
  let some token ← peek | fail
  let some s := nameOf? token | fail
  skip
  return s

/-- A name that may be missing. -/
def name? : Parser (Option String) := do
  match (← peek).bind nameOf? with
  | some s =>
    skip
    return some s
  | none => return none

/-- Take what stands in brackets, up to the bracket that closes as many as are open. -/
def dropBrackets : Nat → List Token → Option (List Token)
  | _, [] => none
  | open_, .sign "(" :: ts => dropBrackets (open_ + 1) ts
  | open_, .sign ")" :: ts => if open_ ≤ 1 then some ts else dropBrackets (open_ - 1) ts
  | open_, _ :: ts => dropBrackets open_ ts

def skipBrackets : Parser Unit := do
  sign "("
  let some rest := dropBrackets 1 (← get) | fail
  set rest

/-- Items with commas between them. -/
def commaSeparated {α : Type} (item : Parser α) : Nat → Parser (List α)
  | 0 => fail
  | fuel + 1 => do
    let x ← item
    if ← takesSign "," then return x :: (← commaSeparated item fuel) else return [x]

/-- As many items as there are. -/
def many {α : Type} (item : Parser (Option α)) : Nat → Parser (List α)
  | 0 => fail
  | fuel + 1 => do
    match ← item with
    | some x => return x :: (← many item fuel)
    | none => return []

/-! ### Types -/

def containsAt (part : List Char) : List Char → Bool
  | [] => part.isEmpty
  | c :: cs => part.isPrefixOf (c :: cs) || containsAt part cs

/-- The affinity that the name of a type stands for.  A part that tells integers decides before one that tells a text,
and so on. -/
def affinityOf (type : String) : Affinity :=
  let has (part : String) : Bool := containsAt part.toList (fold type).toList
  if type.isEmpty then .blob
  else if has "int" then .integer
  else if has "char" || has "clob" || has "text" then .text
  else if has "blob" then .blob
  else if has "real" || has "floa" || has "doub" then .real
  else .numeric

/-- A word that can be part of a type. -/
def typeWord? : Parser (Option String) := do
  match ← peek with
  | some (.word w) =>
    if isReserved w || fold w == "generated" then return none
    else
      skip
      return some w
  | some (.quoted s _) | some (.text s) =>
    skip
    return some s
  | _ => return none

/-- The name of a type, perhaps with sizes. -/
def typeName : Parser String := do
  let words ← many typeWord? (← get).length.succ
  if ¬ words.isEmpty ∧ isSign "(" (← peek) then
    skipBrackets
    return " ".intercalate words ++ "()"
  else return " ".intercalate words

def collation : Parser Collation := do
  let n ← name
  match fold n with
  | "binary" => return .binary
  | "nocase" => return .noCase
  | "rtrim" => return .trimmed
  | _ => return .unknown n

/-! ### Expressions -/

/-- An operator between two operands, and its level. -/
def operator? : Token → Option (Nat × BinaryOp)
  | .sign "=" | .sign "==" => some (4, .equal)
  | .sign "<>" | .sign "!=" => some (4, .unequal)
  | .sign "<" => some (5, .less)
  | .sign "<=" => some (5, .atMost)
  | .sign ">" => some (5, .greater)
  | .sign ">=" => some (5, .atLeast)
  | .sign "&" => some (6, .bitAnd)
  | .sign "|" => some (6, .bitOr)
  | .sign "<<" => some (6, .shiftLeft)
  | .sign ">>" => some (6, .shiftRight)
  | .sign "+" => some (7, .add)
  | .sign "-" => some (7, .subtract)
  | .sign "*" => some (8, .multiply)
  | .sign "/" => some (8, .divide)
  | .sign "%" => some (8, .modulo)
  | .sign "||" => some (9, .concat)
  | .word w =>
    match fold w with
    | "or" => some (1, .or)
    | "and" => some (2, .and)
    | _ => none
  | _ => none

def unaryOp? : Token → Option UnaryOp
  | .sign "-" => some .minus
  | .sign "+" => some .plus
  | .sign "~" => some .complement
  | _ => none

/-- What a test yields when it is negated. -/
def negateIf (negated : Bool) (e : Expr) : Expr := if negated then .unary .not e else e

/-- Whether a value is among others, whose own affinity does not count. -/
def member (e : Expr) (items : List Expr) : Expr :=
  items.foldl (fun found item => .binary .or found (.binary .equal e (.unary .plus item))) (.number "0")

mutual

/-- An expression of operators of a level at least. -/
def expr : Nat → Nat → Parser Expr
  | 0, _ => fail
  | fuel + 1, level => do
    let left ← operand fuel
    climb fuel level left

/-- An operand without the operators behind it. -/
def operand : Nat → Parser Expr
  | 0 => fail
  | fuel + 1 => do
    let some token ← peek | fail
    skip
    match unaryOp? token with
    | some op => return .unary op (← operand fuel)
    | none =>
      match token with
      | .number n => return .number n
      | .text s => return .value (.text s)
      | .bytes b => return .value (.blob b)
      | .sign "(" =>
        let e ← expr fuel 1
        sign ")"
        return e
      | .quoted s double => named fuel s double
      | .word w =>
        match fold w with
        | "not" => return .unary .not (← expr fuel 4)
        | "null" => return .value .null
        | "cast" =>
          sign "("
          let e ← expr fuel 1
          word "as"
          let type ← typeName
          sign ")"
          return .cast e (affinityOf type)
        | "case" =>
          let subject ← if isWord "when" (← peek) then pure none else some <$> expr fuel 1
          return .choose (← cases fuel subject)
        | _ =>
          if isReserved w then throw (some token)
          if ← takesSign "(" then
            let args ← if isSign ")" (← peek) then pure [] else expressions fuel
            sign ")"
            return .call (fold w) args
          else named fuel w false
      | token => throw (some token)

/-- A column whose name starts with a name. -/
def named : Nat → String → Bool → Parser Expr
  | 0, _, _ => fail
  | fuel + 1, s, double => do
    if ← takesSign "." then
      let column ← name
      if isSign "." (← peek) then named fuel column false else return .column (some s) column false
    else return .column none s double

/-- The branches of a choice, up to its end.  With a subject, each condition is that it equals a value. -/
def cases : Nat → Option Expr → Parser (List Expr)
  | 0, _ => fail
  | fuel + 1, subject => do
    if ← takesWord "when" then
      let value ← expr fuel 1
      word "then"
      let result ← expr fuel 1
      let condition := match subject with
        | some e => .binary .equal e value
        | none => value
      return condition :: result :: (← cases fuel subject)
    else if ← takesWord "else" then
      let result ← expr fuel 1
      word "end"
      return [result]
    else
      word "end"
      return []

def expressions : Nat → Parser (List Expr)
  | 0 => fail
  | fuel + 1 => do
    let e ← expr fuel 1
    if ← takesSign "," then return e :: (← expressions fuel) else return [e]

/-- Go on behind an operand with operators of a level at least. -/
def climb : Nat → Nat → Expr → Parser Expr
  | 0, _, _ => fail
  | fuel + 1, level, left => do
    let some token ← peek | return left
    match operator? token with
    | some (l, op) =>
      if l < level then return left
      else
        skip
        let right ← expr fuel (l + 1)
        climb fuel level (.binary op left right)
    | none =>
      if isWord "collate" token then
        skip
        climb fuel level (.collate left (← collation))
      else if 4 < level then return left
      else
        match ← test fuel left with
        | some e => climb fuel level e
        | none => return left

/-- A test of an operand that is written with words. -/
def test : Nat → Expr → Parser (Option Expr)
  | 0, _ => fail
  | fuel + 1, e => do
    let null : Expr := .value .null
    if ← takesWord "isnull" then return some (.binary .is e null)
    else if ← takesWord "notnull" then return some (.binary .isNot e null)
    else if ← takesWords ["not", "null"] then return some (.binary .isNot e null)
    else if ← takesWords ["is", "not", "distinct", "from"] then return some (.binary .is e (← expr fuel 5))
    else if ← takesWords ["is", "distinct", "from"] then return some (.binary .isNot e (← expr fuel 5))
    else if ← takesWords ["is", "not"] then return some (.binary .isNot e (← expr fuel 5))
    else if ← takesWord "is" then return some (.binary .is e (← expr fuel 5))
    else
      let negated ← takesWord "not"
      if ← takesWord "between" then
        let low ← expr fuel 5
        word "and"
        return some (negateIf negated (.binary .and (.binary .atLeast e low) (.binary .atMost e (← expr fuel 5))))
      else if ← takesWord "like" then
        return some (negateIf negated (.binary .like e (← expr fuel 5)))
      else if ← takesWord "in" then
        sign "("
        let items ← if isSign ")" (← peek) then pure [] else expressions fuel
        sign ")"
        return some (negateIf negated (member e items))
      else
        check (!negated)
        return none

end

/-- An expression of at most as many parts as there are tokens. -/
def expression : Parser Expr := do expr (4 * (← get).length + 4) 1

end Parser

end CommitCharts.Database.Sql
