import CommitCharts.Yaml.Mark

/-!
# CommitCharts.Yaml.Scalar — scalars and the folding of lines

A scalar is a text with the style it was written in.  Inside plain and quoted scalars white space around line
ends is dropped; a single line end then reads as a space, and of several ends the first is dropped.
-/

namespace CommitCharts.Yaml

inductive Style where
  | plain
  | singleQuoted
  | doubleQuoted
  | literal
  | folded
  deriving DecidableEq, Repr

structure Scalar where
  text : String
  tag : Option String
  style : Style
  deriving DecidableEq, Repr

/-- White space between words: blanks within a line, or line ends.  The first line end may have been escaped,
and then counts for nothing. -/
inductive Gap where
  | blanks (cs : List Char)
  | lines (first : Option Char) (more : List Char)
  deriving DecidableEq, Repr

namespace Gap

def empty : Gap := .blanks []

def isEmpty : Gap → Bool
  | .blanks cs => cs.isEmpty
  | .lines .. => false

def isLines : Gap → Bool
  | .blanks _ => false
  | .lines .. => true

def push (g : Gap) (c : Char) : Gap :=
  match g with
  | .blanks cs => if isBreak c then .lines (some c) [] else .blanks (cs ++ [c])
  | .lines first more => if isBreak c then .lines first (more ++ [c]) else g

/-- What the gap reads as. -/
def text : Gap → List Char
  | .blanks cs => cs
  | .lines none more => more
  | .lines (some c) more => if c = '\n' then (if more.isEmpty then [' '] else more) else c :: more

end Gap

/-- A text as it grows, last character first, and the gap behind it. -/
structure Draft where
  reversed : List Char := []
  gap : Gap := .empty
  deriving DecidableEq, Repr

namespace Draft

def chars (d : Draft) : List Char := d.reversed.reverse

/-- The gap becomes part of the text. -/
def join (d : Draft) : Draft := ⟨d.gap.text.reverse ++ d.reversed, .empty⟩

def push (d : Draft) (c : Char) : Draft := { d.join with reversed := c :: d.join.reversed }

def pushGap (d : Draft) (c : Char) : Draft := { d with gap := d.gap.push c }

end Draft

end CommitCharts.Yaml
