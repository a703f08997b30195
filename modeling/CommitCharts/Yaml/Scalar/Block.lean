import CommitCharts.Yaml.Scalar

/-!
# CommitCharts.Yaml.Scalar.Block — literal and folded blocks

A block is the lines below its header that are indented at least as far as the first of them, or as far as the
header says.  A literal block keeps its line ends; a folded one joins lines unless they start with a blank.
-/

namespace CommitCharts.Yaml.Block

/-- What is kept of the line ends behind the last line. -/
inductive Chomping where
  | clip
  | strip
  | keep
  deriving DecidableEq, Repr

structure Header where
  chomping : Chomping := .clip
  /-- How much further than its parent the block is indented, if that is given. -/
  increment : Option Nat := none
  deriving DecidableEq, Repr

def chomping? : Char → Option Chomping
  | '+' => some .keep
  | '-' => some .strip
  | _ => none

/-- A digit but zero. -/
def increment? (c : Char) : Option Nat := if '1' ≤ c ∧ c ≤ '9' then some (c.toNat - '0'.toNat) else none

/-- The chomping and the increment, in either order, and how many characters they take. -/
def header : List Char → Header × Nat
  | c :: cs =>
    match chomping? c, increment? c with
    | some chomping, _ =>
      match cs.head?.bind increment? with
      | some n => (⟨chomping, some n⟩, 2)
      | none => (⟨chomping, none⟩, 1)
    | none, some n =>
      match cs.head?.bind chomping? with
      | some chomping => (⟨chomping, some n⟩, 2)
      | none => (⟨.clip, some n⟩, 1)
    | none, none => ({}, 0)
  | [] => ({}, 0)

/-- A block while it is read. -/
structure State where
  /-- The indentation of the lines, once it is known. -/
  indent : Option Nat
  /-- The widest indentation of the empty lines before the first line. -/
  widest : Nat := 0
  reversed : List Char := []
  /-- The end of the last line. -/
  lead : List Char := []
  /-- The ends of empty lines behind it. -/
  breaks : List Char := []
  /-- The last line starts with a blank. -/
  startsBlank : Bool := false
  inLine : Bool := false
  deriving DecidableEq, Repr

/-- Begin a line with its first character: the line ends before it become part of the text. -/
def State.openLine (b : State) (literal : Bool) (indent : Nat) (c : Char) : State :=
  let folds := !literal && b.lead == ['\n'] && !b.startsBlank && !isBlank c
  let lead := if folds then (if b.breaks.isEmpty then [' '] else []) else b.lead
  { indent := some indent, reversed := c :: ((lead ++ b.breaks).reverse ++ b.reversed),
    startsBlank := isBlank c, inLine := true }

/-- Before a line, a column still belongs to the indentation. -/
def State.isIndenting (b : State) (column : Nat) : Bool :=
  match b.indent with
  | none => true
  | some n => column < n

/-- Read lines up to the first one that is not indented far enough.  `floor` is the least indentation.  Tabs may
not stand in for indentation. -/
def scan (literal : Bool) (floor : Nat) (b : State) (m : Mark) : List Char → Option (State × Cursor)
  | [] => some (b, ⟨m, []⟩)
  | c :: cs =>
    if b.inLine then
      if isBreak c then scan literal floor { b with lead := [c], inLine := false } (m.advance c) cs
      else scan literal floor { b with reversed := c :: b.reversed } (m.advance c) cs
    else if c = ' ' ∧ b.isIndenting m.column then
      scan literal floor { b with widest := max b.widest (m.column + 1) } (m.advance c) cs
    else if c = '\t' ∧ b.isIndenting m.column then none
    else if isBreak c then scan literal floor { b with breaks := b.breaks ++ [c] } (m.advance c) cs
    else
      let indent := b.indent.getD (max b.widest floor)
      if m.column = indent then scan literal floor (b.openLine literal indent c) (m.advance c) cs
      else some (b, ⟨m, c :: cs⟩)

/-- The text of a block that was read to its end. -/
def State.text (b : State) (chomping : Chomping) : List Char :=
  b.reversed.reverse ++
    match chomping with
    | .clip => b.lead
    | .strip => []
    | .keep => b.lead ++ b.breaks

end CommitCharts.Yaml.Block
