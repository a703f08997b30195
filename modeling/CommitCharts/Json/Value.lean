/-!
# CommitCharts.Json.Value — JSON values and their text

Numbers are integers.  The fields of an object keep their order.  A value is written either without any
white space or, indented, one item to a line; both layouts differ in white space only.
-/

namespace CommitCharts.Json

inductive Value where
  | null
  | bool (b : Bool)
  | number (n : Int)
  | string (s : String)
  | array (items : List Value)
  | object (fields : List (String × Value))
  deriving Repr, Inhabited

inductive Layout where
  | compact
  | indented
  deriving DecidableEq, Repr

/-- The white space before an item at the given depth. -/
def Layout.line : Layout → Nat → List Char
  | .compact, _ => []
  | .indented, depth => '\n' :: List.replicate (2 * depth) ' '

/-- What stands between a key and its value. -/
def Layout.colon : Layout → List Char
  | .compact => [':']
  | .indented => [':', ' ']

/-- A character inside quotes: the quote, the backslash and control characters are escaped. -/
def escape (c : Char) : List Char :=
  if c = '"' then ['\\', '"']
  else if c = '\\' then ['\\', '\\']
  else if c = '\x08' then ['\\', 'b']
  else if c = '\x0c' then ['\\', 'f']
  else if c = '\n' then ['\\', 'n']
  else if c = '\r' then ['\\', 'r']
  else if c = '\t' then ['\\', 't']
  else if c.toNat < 0x20 then
    ['\\', 'u', '0', '0', Nat.digitChar (c.toNat / 16), Nat.digitChar (c.toNat % 16)]
  else [c]

def quote (s : String) : List Char := '"' :: (s.toList.flatMap escape ++ ['"'])

def integer : Int → List Char
  | .ofNat n => Nat.toDigits 10 n
  | .negSucc n => '-' :: Nat.toDigits 10 (n + 1)

section Write

variable (l : Layout)

mutual

def write (depth : Nat) : Value → List Char
  | .null => "null".toList
  | .bool b => (if b then "true" else "false").toList
  | .number n => integer n
  | .string s => quote s
  | .array [] => ['[', ']']
  | .array (v :: vs) =>
    '[' :: (l.line (depth + 1) ++ write (depth + 1) v ++ writeItems (depth + 1) vs ++ l.line depth ++ [']'])
  | .object [] => ['{', '}']
  | .object ((k, v) :: fs) =>
    '{' :: (l.line (depth + 1) ++ quote k ++ l.colon ++ write (depth + 1) v ++ writeFields (depth + 1) fs ++
      l.line depth ++ ['}'])

/-- The items after the first one, each behind a comma. -/
def writeItems (depth : Nat) : List Value → List Char
  | [] => []
  | v :: vs => ',' :: (l.line depth ++ write depth v ++ writeItems depth vs)

/-- The fields after the first one, each behind a comma. -/
def writeFields (depth : Nat) : List (String × Value) → List Char
  | [] => []
  | (k, v) :: fs => ',' :: (l.line depth ++ quote k ++ l.colon ++ write depth v ++ writeFields depth fs)

end

end Write

/-- The text of a value, without white space. -/
def Value.compact (v : Value) : String := String.ofList (write .compact 0 v)

/-- The text of a value, one item to a line, indented by two blanks. -/
def Value.pretty (v : Value) : String := String.ofList (write .indented 0 v)

end CommitCharts.Json
