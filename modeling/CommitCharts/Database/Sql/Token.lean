import CommitCharts.Decimal.Reader

/-!
# CommitCharts.Database.Sql.Token — the words of statements

A database keeps its tables and views as the statements that made them.  A statement is a row of words, names in
quotes, literals and signs, with blanks and comments between them.
-/

namespace CommitCharts.Database.Sql

inductive Token where
  /-- A keyword or a name. -/
  | word (text : String)
  /-- A name in quotes.  In double quotes it may turn out to be text. -/
  | quoted (text : String) (double : Bool)
  | text (s : String)
  /-- A number as it is written. -/
  | number (text : String)
  | bytes (b : List UInt8)
  | sign (text : String)
  deriving DecidableEq, Repr

/-- Names and keywords are compared without regard to the case of ASCII letters. -/
def fold (s : String) : String := String.ofList (s.toList.map Char.toLower)

def sameName (a b : String) : Bool := fold a == fold b

namespace Token

/-- A token as it may have been written. -/
def source : Token → String
  | .word t | .number t | .sign t => t
  | .quoted t double => if double then String.join ["\"", t, "\""] else String.join ["[", t, "]"]
  | .text s => String.join ["'", s, "'"]
  | .bytes b => String.join ["x'", String.ofList (b.flatMap fun x => (Nat.toDigits 16 (256 + x.toNat)).tail), "'"]

def isBlank (c : Char) : Bool := c = ' ' || c = '\t' || c = '\n' || c = '\x0c' || c = '\r'

def startsWord (c : Char) : Bool := c.isAlpha || c = '_' || 128 ≤ c.toNat

def isWordChar (c : Char) : Bool := startsWord c || c.isDigit || c = '$'

def hexDigit? (c : Char) : Option Nat :=
  if c.isDigit then some (c.toNat - '0'.toNat)
  else if 'a' ≤ c.toLower && c.toLower ≤ 'f' then some (c.toLower.toNat - 'a'.toNat + 10)
  else none

/-- What stands between quotes, a doubled quote standing for one, and what follows. -/
def takeQuoted (close : Char) : List Char → Option (List Char × List Char)
  | [] => none
  | [c] => if c = close then some ([], []) else none
  | c :: d :: cs =>
    if c = close then
      if d = close ∧ close ≠ ']' then (takeQuoted close cs).map fun r => (close :: r.1, r.2) else some ([], d :: cs)
    else (takeQuoted close (d :: cs)).map fun r => (c :: r.1, r.2)

/-- What follows a comment between slashes and stars. -/
def dropComment : List Char → List Char
  | '*' :: '/' :: cs => cs
  | _ :: cs => dropComment cs
  | [] => []

/-- Pairs of hexadecimal digits. -/
def hexBytes? : List Char → Option (List UInt8)
  | [] => some []
  | a :: b :: cs => do return (16 * (← hexDigit? a) + (← hexDigit? b)).toUInt8 :: (← hexBytes? cs)
  | [_] => none

/-- A number at the start of a text: digits with at most one point among them and perhaps an exponent, or digits of
base sixteen. -/
def takeNumber (cs : List Char) : List Char × List Char :=
  match cs with
  | '0' :: x :: d :: rest =>
    if x.toLower = 'x' ∧ (hexDigit? d).isSome then
      let digits := (d :: rest).takeWhile fun c => (hexDigit? c).isSome
      ('0' :: 'x' :: digits, (d :: rest).drop digits.length)
    else decimal cs
  | cs => decimal cs
where
  decimal (cs : List Char) : List Char × List Char :=
    let whole := cs.takeWhile Char.isDigit
    let rest := cs.drop whole.length
    let fraction := match rest with
      | '.' :: r => '.' :: r.takeWhile Char.isDigit
      | _ => []
    let rest := rest.drop fraction.length
    let exponent := match rest with
      | e :: r =>
        if e.toLower = 'e' then
          let sign := match r with
            | '+' :: _ => ['+']
            | '-' :: _ => ['-']
            | _ => []
          let digits := (r.drop sign.length).takeWhile Char.isDigit
          if digits.isEmpty then [] else e :: sign ++ digits
        else []
      | [] => []
    (whole ++ fraction ++ exponent, rest.drop exponent.length)

/-- The longest sign at the start of a text. -/
def takeSign (cs : List Char) : List Char :=
  match cs with
  | a :: b :: c :: _ =>
    if [a, b, c] = "->>".toList then [a, b, c] else two a b
  | [a, b] => two a b
  | cs => cs.take 1
where
  two (a b : Char) : List Char :=
    if ["==", "<=", "<>", "<<", ">=", ">>", "!=", "||", "->"].contains (String.ofList [a, b]) then [a, b] else [a]

/-- The token at the start of a text that starts with no blank, and what follows; no token for a comment. -/
def next? (c : Char) (cs : List Char) : Option (Option Token × List Char) :=
  if startsWord c then
    let name := c :: cs.takeWhile isWordChar
    let rest := cs.dropWhile isWordChar
    match rest with
    | '\x27' :: digits =>
      if name = ['x'] ∨ name = ['X'] then do
        let (digits, rest) ← takeQuoted '\x27' digits
        return (some (.bytes (← hexBytes? digits)), rest)
      else some (some (.word (String.ofList name)), rest)
    | _ => some (some (.word (String.ofList name)), rest)
  else if c = '\x27' then (takeQuoted c cs).map fun r => (some (.text (String.ofList r.1)), r.2)
  else if c = '"' ∨ c = '\x60' then
    (takeQuoted c cs).map fun r => (some (.quoted (String.ofList r.1) (c = '"')), r.2)
  else if c = '[' then (takeQuoted ']' cs).map fun r => (some (.quoted (String.ofList r.1) false), r.2)
  else if c = '-' ∧ cs.head? = some '-' then some (none, cs.dropWhile (· ≠ '\n'))
  else if c = '/' ∧ cs.head? = some '*' then some (none, dropComment cs.tail)
  else if c.isDigit ∨ (c = '.' ∧ cs.head?.any Char.isDigit) then
    let (digits, rest) := takeNumber (c :: cs)
    some (some (.number (String.ofList digits)), rest)
  else
    let s := takeSign (c :: cs)
    some (some (.sign (String.ofList s)), (c :: cs).drop s.length)

/-- The tokens of a text of at most `fuel` characters. -/
def scan : Nat → List Char → Option (List Token)
  | 0, _ => some []
  | _, [] => some []
  | fuel + 1, c :: cs =>
    if isBlank c then scan fuel cs
    else do
      let (token, rest) ← next? c cs
      return token.toList ++ (← scan fuel rest)

/-- The tokens of a statement; `none` if a quote is never closed. -/
def ofText (statement : String) : Option (List Token) := scan statement.length statement.toList

end Token

end CommitCharts.Database.Sql
