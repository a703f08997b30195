import CommitCharts.Database.Sql.Arithmetic

/-!
# CommitCharts.Database.Sql.Function — values as texts, and the functions

Texts are taken character by character; bytes that are no characters count one by one.  A function of a text is null
of null.
-/

namespace CommitCharts.Database.Sql

/-! ### Texts -/

/-- The bytes of a value as text; none of null. -/
def textOf? (v : Value) : Option (List UInt8) :=
  match v.asText with
  | .null => none
  | t => some (bytesOf t.toValue)

/-- The characters of a text; other bytes than those of characters count one by one. -/
def charsOf (bytes : List UInt8) : List Char :=
  match String.fromUTF8? ⟨bytes.toArray⟩ with
  | some s => s.toList
  | none => bytes.map fun b => Char.ofNat b.toNat

def ofChars (cs : List Char) : Value := .text (String.ofList cs)

/-- What is left of a list from each place on, the whole list first. -/
def suffixes {α : Type} : List α → List (List α)
  | [] => [[]]
  | x :: xs => (x :: xs) :: suffixes xs

/-- Whether a text fits a pattern, where a percent sign stands for any characters and an underscore for one. -/
def isLike : List Char → List Char → Bool
  | [], s => s.isEmpty
  | p :: ps, s =>
    if p = '%' then (suffixes s).any fun t => isLike ps t
    else
      match s with
      | c :: cs => (p = '_' || p.toLower = c.toLower) && isLike ps cs
      | [] => false

/-- The part of a list from a place on, counted from one or backwards from the end, of a length that may go
backwards as well. -/
def part {α : Type} (xs : List α) (start : Int) (length : Option Int) : List α :=
  let size : Int := xs.length
  let first := if start < 0 then size + start else if start = 0 then -1 else start - 1
  let (low, high) := match length with
    | none => (first, size)
    | some n => if n < 0 then (max first 0 + n, max first 0) else (first, first + n)
  (xs.take high.toNat).drop low.toNat

def replaceAll (old new : List Char) : Nat → List Char → List Char
  | 0, cs => cs
  | fuel + 1, cs =>
    match cs with
    | [] => []
    | c :: rest =>
      if old.isPrefixOf cs then new ++ replaceAll old new fuel (cs.drop old.length)
      else c :: replaceAll old new fuel rest

/-! ### Functions -/

def isNull : Value → Bool
  | .null => true
  | _ => false

/-- A function of texts, null of null. -/
def onText (f : List UInt8 → Value) (v : Value) : Value := ((textOf? v).map f).getD .null

def lengthOf (v : Value) : Value :=
  match v with
  | .blob b => .integer (Int64.ofNat b.length)
  | v => onText (fun b => .integer (Int64.ofNat (charsOf (b.takeWhile (· ≠ 0))).length)) v

def substring (v : Value) (start : Int64) (length : Option Int) : Value :=
  match v with
  | .blob b => .blob (part b start.toInt length)
  | v => onText (fun b => ofChars (part (charsOf b) start.toInt length)) v

/-- The least value of an order, none of null. -/
def least (e : Encoding) (wanted : Ordering) : List Value → Value
  | [] => .null
  | v :: vs =>
    if isNull v || vs.any isNull then .null
    else vs.foldl (fun m v => if compareValues e .binary v m == wanted then v else m) v

/-- The functions that expressions may use, with how many arguments they take at least and at most. -/
def functions : List (String × Nat × Nat) :=
  [("abs", 1, 1), ("coalesce", 2, 100), ("ifnull", 2, 2), ("iif", 3, 3), ("nullif", 2, 2), ("length", 1, 1),
    ("lower", 1, 1), ("upper", 1, 1), ("substr", 2, 3), ("substring", 2, 3), ("trim", 1, 2), ("ltrim", 1, 2),
    ("rtrim", 1, 2), ("replace", 3, 3), ("typeof", 1, 1), ("min", 2, 100), ("max", 2, 100)]

/-- The value of a function. -/
def apply (e : Encoding) (name : String) (args : List Value) : Value :=
  let trim (left right : Bool) (v : Value) (dropped : List Char) : Value :=
    let p (c : Char) : Bool := dropped.contains c
    onText (fun b =>
      let cs := if left then (charsOf b).dropWhile p else charsOf b
      ofChars (if right then Text.dropEndWhile p cs else cs)) v
  match name, args with
  | "abs", [v] =>
    match v with
    | .null => .null
    | .integer n => ofInt n.toInt.natAbs
    | v => .real (toFloat (asNumber v)).abs
  | "coalesce", vs | "ifnull", vs => (vs.find? (!isNull ·)).getD .null
  | "iif", [c, x, y] => if truth? c = some true then x else y
  | "nullif", [x, y] => if compareValues e .binary x y == .eq then .null else x
  | "length", [v] => lengthOf v
  | "lower", [v] => onText (fun b => ofChars ((charsOf b).map Char.toLower)) v
  | "upper", [v] => onText (fun b => ofChars ((charsOf b).map Char.toUpper)) v
  | "substr", [v, s] | "substring", [v, s] => if isNull s then .null else substring v (toInteger s) none
  | "substr", [v, s, n] | "substring", [v, s, n] =>
    if isNull s || isNull n then .null else substring v (toInteger s) (some (toInteger n).toInt)
  | "trim", [v] => trim true true v [' ']
  | "ltrim", [v] => trim true false v [' ']
  | "rtrim", [v] => trim false true v [' ']
  | "trim", [v, d] => onText (fun d => trim true true v (charsOf d)) d
  | "ltrim", [v, d] => onText (fun d => trim true false v (charsOf d)) d
  | "rtrim", [v, d] => onText (fun d => trim false true v (charsOf d)) d
  | "replace", [v, old, new] =>
    match textOf? v, textOf? old, textOf? new with
    | some v, some old, some new =>
      if old.isEmpty then .ofTextBytes v
      else ofChars (replaceAll (charsOf old) (charsOf new) v.length (charsOf v))
    | _, _, _ => .null
  | "typeof", [v] => .text (v.typeName.map Char.toLower)
  | "min", vs => least e .lt vs
  | "max", vs => least e .gt vs
  | _, _ => .null

end CommitCharts.Database.Sql
