/-!
# CommitCharts.Yaml.Mark — characters and places

A mark counts bytes and lines from the start of the text, and characters from the start of the line.  A
cursor is a mark with the text behind it.  Line ends are made one character each before the text is read, so
every character moves a mark either along its line or to the next one.
-/

namespace CommitCharts.Yaml

def isBlank (c : Char) : Bool := c == ' ' || c == '\t'

/-- Line ends; the line and paragraph separators keep their identity in texts. -/
def isBreak (c : Char) : Bool := c == '\n' || c == '\u2028' || c == '\u2029'

def isGap (c : Char) : Bool := isBlank c || isBreak c

/-- The text ends here or goes on with a blank or a line end. -/
def atGap : List Char → Bool
  | [] => true
  | c :: _ => isGap c

/-- The line ends here. -/
def atBreak : List Char → Bool
  | [] => true
  | c :: _ => isBreak c

/-- Characters of anchors, directives and tag handles. -/
def isWordChar (c : Char) : Bool := c.isAlphanum || c == '_' || c == '-'

/-- Carriage returns, alone or before a line feed, and next-line characters become line feeds. -/
def unifyBreaks : List Char → List Char
  | '\r' :: '\n' :: cs => '\n' :: unifyBreaks cs
  | c :: cs => (if c = '\r' || c = '\u0085' then '\n' else c) :: unifyBreaks cs
  | [] => []

/-- Characters that a text may hold: no control characters but tabs and line ends, and no noncharacters at the
end of the basic plane. -/
def isAllowed (c : Char) : Bool :=
  let n := c.toNat
  n == 0x9 || n == 0xA || n == 0xD || (0x20 ≤ n && n ≤ 0x7E) || n == 0x85 || (0xA0 ≤ n && n ≤ 0xFFFD) || 0x10000 ≤ n

/-- Three hyphens or dots on their own: the start or the end of a document. -/
def isDocumentMark : List Char → Bool
  | '-' :: '-' :: '-' :: cs => atGap cs
  | '.' :: '.' :: '.' :: cs => atGap cs
  | _ => false

structure Mark where
  index : Nat := 0
  line : Nat := 0
  column : Nat := 0
  deriving DecidableEq, Repr, Inhabited

/-- The mark behind a character. -/
def Mark.advance (m : Mark) (c : Char) : Mark :=
  if isBreak c then ⟨m.index + c.utf8Size, m.line + 1, 0⟩ else ⟨m.index + c.utf8Size, m.line, m.column + 1⟩

structure Cursor where
  mark : Mark
  rest : List Char
  deriving DecidableEq, Repr

namespace Cursor

def drop (k : Cursor) (n : Nat) : Cursor := ⟨(k.rest.take n).foldl Mark.advance k.mark, k.rest.drop n⟩

def dropWhile (k : Cursor) (p : Char → Bool) : Cursor :=
  ⟨(k.rest.takeWhile p).foldl Mark.advance k.mark, k.rest.dropWhile p⟩

/-- Move over blanks and a comment to the end of the line; `none` if anything else is in the way. -/
def toBreak? (k : Cursor) : Option Cursor :=
  let k := k.dropWhile isBlank
  match k.rest with
  | '#' :: _ => some (k.dropWhile (!isBreak ·))
  | cs => if atBreak cs then some k else none

end Cursor

end CommitCharts.Yaml
