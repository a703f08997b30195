import CommitCharts.Yaml.Scalar

/-!
# CommitCharts.Yaml.Scalar.Plain — plain scalars

A plain scalar runs up to a comment, a colon before white space, a document mark or a line that is not indented
far enough.  Between brackets, commas and brackets end it as well.
-/

namespace CommitCharts.Yaml

def isFlowIndicator (c : Char) : Bool := c == ',' || c == '[' || c == ']' || c == '{' || c == '}'

namespace Plain

/-- White space went before, and the scalar does not go on with the next character. -/
def endsAtWord (flow : Bool) (floor : Nat) (m : Mark) (cs : List Char) : Bool :=
  (!flow && m.column < floor) || (m.column == 0 && isDocumentMark cs) || cs.head? == some '#'

/-- An indicator that ends a scalar wherever it stands. -/
def endsAt (flow : Bool) (c : Char) (cs : List Char) : Bool := (c == ':' && atGap cs) || (flow && isFlowIndicator c)

/-- A colon between brackets that can neither end a key nor be part of a word. -/
def isMisplaced (flow : Bool) (c : Char) (cs : List Char) : Bool :=
  flow && c == ':' && cs.head?.any fun d => isFlowIndicator d || d == '?'

/-- Read on from within a plain scalar: its text, and where it and the white space behind it end.  Tabs may not
stand in for indentation. -/
def scan (flow : Bool) (floor : Nat) (d : Draft) (m : Mark) : List Char → Option (Draft × Cursor)
  | [] => some (d, ⟨m, []⟩)
  | c :: cs =>
    if isGap c then
      if c = '\t' ∧ d.gap.isLines ∧ m.column < floor then none
      else scan flow floor (d.pushGap c) (m.advance c) cs
    else if (!d.gap.isEmpty && endsAtWord flow floor m (c :: cs)) || endsAt flow c cs then some (d, ⟨m, c :: cs⟩)
    else if isMisplaced flow c cs then none
    else scan flow floor (d.push c) (m.advance c) cs

/-- A plain scalar can start with this character. -/
def startsWith (flow : Bool) (c : Char) (cs : List Char) : Bool :=
  if isGap c || isFlowIndicator c || "#&*!|>'\"%@`".toList.contains c then false
  else if c == '-' then !cs.head?.any isBlank
  else if c == '?' || c == ':' then !flow && !atGap cs
  else true

end Plain

end CommitCharts.Yaml
