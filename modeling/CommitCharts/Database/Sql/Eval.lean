import CommitCharts.Database.Sql.Function

/-!
# CommitCharts.Database.Sql.Eval — the values of expressions

Expressions have three truth values: a condition on null is neither true nor false.  A comparison is made under the
affinities and the collation of its two sides.
-/

namespace CommitCharts.Database.Sql

/-! ### Operators -/

/-- Whether a comparison of two values that are not null holds. -/
def holds (op : BinaryOp) (o : Ordering) : Bool :=
  match op with
  | .equal | .is => o == .eq
  | .unequal | .isNot => o != .eq
  | .less => o == .lt
  | .atMost => o != .gt
  | .greater => o == .gt
  | .atLeast => o != .lt
  | _ => false

/-- The value of an operator other than a logical one, under the affinity and collation of its sides. -/
def operate (e : Encoding) (affinity : Affinity) (c : Collation) (op : BinaryOp) (a b : Value) : Value :=
  match op with
  | .add => arithmetic (· + ·) (· + ·) a b
  | .subtract => arithmetic (· - ·) (· - ·) a b
  | .multiply => arithmetic (· * ·) (· * ·) a b
  | .divide => divide a b
  | .modulo => modulo a b
  | .bitAnd => onBits (· &&& ·) a b
  | .bitOr => onBits (· ||| ·) a b
  | .shiftLeft => onBits shiftLeft a b
  | .shiftRight => onBits (fun a b => shiftLeft a (Int64.ofInt (-b.toInt))) a b
  | .concat =>
    match textOf? a, textOf? b with
    | some s, some t => .ofTextBytes (s ++ t)
    | _, _ => .null
  | .like =>
    match textOf? a, textOf? b with
    | some s, some p => ofBool (isLike (charsOf p) (charsOf s))
    | _, _ => .null
  | op =>
    if (isNull a || isNull b) && op != .is && op != .isNot then .null
    else
      let (a, b) := coerce affinity a b
      ofBool (holds op (compareValues e c a b))

def and? : Option Bool → Option Bool → Option Bool
  | some false, _ | _, some false => some false
  | some true, some true => some true
  | _, _ => none

def castTo (a : Affinity) (v : Value) : Value :=
  match v, a with
  | .null, _ => .null
  | v, .integer => .integer (toInteger v)
  | v, .real => asReal (asNumber v)
  | v, .numeric =>
    match v with
    | .integer _ | .real _ => v
    | v => (asNumber v).asInteger
  | v, .text => ((textOf? v).map .ofTextBytes).getD .null
  | v, _ => ((textOf? v).map .blob).getD .null

/-! ### Expressions -/

/-- The affinity that an expression's value has when it is compared. -/
def Expr.affinity : Expr → Affinity
  | .field _ a _ => a
  | .cast _ a => a
  | .collate e _ => e.affinity
  | _ => .none

/-- The collation that an expression brings along, if any. -/
def Expr.collation? : Expr → Option Collation
  | .field _ _ c => c
  | .cast e _ | .unary .plus e => e.collation?
  | .collate _ c => some c
  | _ => none

/-- Whether an expression names its collation. -/
def Expr.isCollated : Expr → Bool
  | .cast e _ | .unary .plus e => e.isCollated
  | .collate .. => true
  | _ => false

/-- The collation of a comparison: a named one first, then that of the left side. -/
def collationOf (a b : Expr) : Collation :=
  let c := if b.isCollated && !a.isCollated then b.collation? else a.collation?.or b.collation?
  c.getD .binary

mutual

/-- The value of an expression in a row. -/
def Expr.eval (e : Encoding) (row : List Value) : Expr → Value
  | .value v => v
  | .number text => literal false text
  | .column .. => .null
  | .field i _ _ => (row[i]?).getD .null
  | .unary .minus (.number text) => literal true text
  | .unary op x =>
    let v := x.eval e row
    match op with
    | .minus => negate v
    | .plus => v
    | .complement => if isNull v then .null else .integer (~~~(toInteger (asNumber v)))
    | .not => ofTruth ((truth? v).map (!·))
  | .binary .and x y => ofTruth (and? (truth? (x.eval e row)) (truth? (y.eval e row)))
  | .binary .or x y =>
    ofTruth ((and? ((truth? (x.eval e row)).map (!·)) ((truth? (y.eval e row)).map (!·))).map (!·))
  | .binary op x y =>
    operate e (comparisonAffinity x.affinity y.affinity) (collationOf x y) op (x.eval e row) (y.eval e row)
  | .choose branches => Expr.firstOf e row branches
  | .cast x a => castTo a (x.eval e row)
  | .collate x _ => x.eval e row
  | .call name args => apply e name (Expr.evalAll e row args)

/-- The first result whose condition holds. -/
def Expr.firstOf (e : Encoding) (row : List Value) : List Expr → Value
  | [] => .null
  | [x] => x.eval e row
  | c :: x :: rest => if truth? (c.eval e row) = some true then x.eval e row else Expr.firstOf e row rest

def Expr.evalAll (e : Encoding) (row : List Value) : List Expr → List Value
  | [] => []
  | x :: xs => x.eval e row :: Expr.evalAll e row xs

end

end CommitCharts.Database.Sql
