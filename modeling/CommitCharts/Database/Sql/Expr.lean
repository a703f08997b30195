import CommitCharts.Database.Image
import CommitCharts.Database.Value

/-!
# CommitCharts.Database.Sql.Expr — expressions, queries and definitions

The parts of statements that define tables and views.  A column's affinity says which values it turns into others,
its collation how its texts compare.
-/

namespace CommitCharts.Database.Sql

inductive Affinity where
  /-- No affinity: the value of an expression. -/
  | none
  | blob
  | text
  | numeric
  | integer
  | real
  deriving DecidableEq, Repr

inductive Collation where
  | binary
  | noCase
  | trimmed
  /-- One that is not known here. -/
  | unknown (name : String)
  deriving DecidableEq, Repr

inductive UnaryOp where
  | minus
  | plus
  | complement
  | not
  deriving DecidableEq, Repr

inductive BinaryOp where
  | or
  | and
  | equal
  | unequal
  | is
  | isNot
  | less
  | atMost
  | greater
  | atLeast
  | bitAnd
  | bitOr
  | shiftLeft
  | shiftRight
  | add
  | subtract
  | multiply
  | divide
  | modulo
  | concat
  | like
  deriving DecidableEq, Repr

inductive Expr where
  | value (v : Value)
  /-- A number as it is written. -/
  | number (text : String)
  /-- A column, perhaps of a named table.  A name in double quotes that fits no column is text. -/
  | column (table : Option String) (name : String) (double : Bool)
  /-- The value in a place of the current row. -/
  | field (index : Nat) (affinity : Affinity) (collation : Option Collation)
  | unary (op : UnaryOp) (e : Expr)
  | binary (op : BinaryOp) (a b : Expr)
  /-- The first of the results whose condition holds: conditions and results take turns, and a last result may
  follow. -/
  | choose (branches : List Expr)
  | cast (e : Expr) (affinity : Affinity)
  | collate (e : Expr) (collation : Collation)
  | call (name : String) (arguments : List Expr)

/-- A column of a query: all columns, all of one table, or a value that may have a name. -/
inductive Output where
  | all
  | allOf (table : String)
  | value (e : Expr) (name : Option String)

inductive JoinKind where
  | inner
  | left
  deriving DecidableEq, Repr

/-- How rows of two queries are put together. -/
inductive Compound where
  | unionAll
  | union
  | intersect
  | except
  deriving DecidableEq, Repr

/-- A term of an order; the largest value comes first in a descending one. -/
structure OrderTerm where
  e : Expr
  descending : Bool

mutual

inductive Query where
  | select (distinct : Bool) (outputs : List Output) (sources : List Source) (condition : Option Expr)
  | values (rows : List (List Expr))
  | compound (op : Compound) (a b : Query)
  | ordered (q : Query) (terms : List OrderTerm) (limit offset : Option Expr)

/-- A table of a query, and how it is joined to the ones before it. -/
inductive Source where
  | table (name : String) (label : Option String) (join : JoinKind) (condition : Option Expr)
  | query (q : Query) (label : String) (join : JoinKind) (condition : Option Expr)

end

/-- How the value of a column comes about that is computed from others. -/
structure Generated where
  e : Expr
  /-- Whether the value is kept in the rows. -/
  stored : Bool

structure Column where
  name : String
  affinity : Affinity := .blob
  collation : Collation := .binary
  default : Option Expr := none
  generated : Option Generated := none

structure Table where
  name : String
  columns : List Column
  /-- The column that is the number of the row. -/
  numberColumn : Option Nat := none
  /-- The columns of the key that orders the rows of a table without row numbers. -/
  key : Option (List Nat) := none

structure View where
  name : String
  columns : List String
  query : Query

end CommitCharts.Database.Sql
