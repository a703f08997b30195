import CommitCharts.Yaml.Scalar.Block
import CommitCharts.Yaml.Scalar.Plain
import CommitCharts.Yaml.Scalar.Quoted
import CommitCharts.Yaml.Token.Tag

/-!
# CommitCharts.Yaml.Token.Scan — from text to tokens

The scanner keeps the columns of the open block collections and, for every level of brackets, the place where a
key may have begun: whether it did is only known at the colon behind it.  Where the text is malformed the tokens
end without a token for the end of the stream, and a token that might still have become a key is held back.

A text is taken in portions, and a portion with a character that no text may hold breaks it off.
-/

namespace CommitCharts.Yaml

/-- A token that becomes a key if a colon follows on the same line. -/
structure KeyPlace where
  /-- How many tokens stand before it. -/
  number : Nat
  /-- Nothing but a key can stand here. -/
  required : Bool
  mark : Mark
  deriving DecidableEq, Repr

structure Scanner where
  cursor : Cursor
  /-- Last token first. -/
  tokens : List Lexeme := []
  /-- The columns of the open block collections, innermost first. -/
  indents : List Nat := []
  /-- A key may begin here. -/
  keyAllowed : Bool := true
  /-- The place of a key on this level. -/
  key : Option KeyPlace := none
  /-- The places of keys on the levels outside the open brackets, innermost first. -/
  outer : List (Option KeyPlace) := []

namespace Scanner

variable (s : Scanner)

def mark : Mark := s.cursor.mark

/-- Inside brackets. -/
def inFlow : Bool := !s.outer.isEmpty

/-- The least column that is inside the innermost block collection. -/
def floor : Nat := (s.indents.head?.map (· + 1)).getD 0

/-- The tokens in order, without those that a place of a key holds back. -/
def delivered : List Lexeme :=
  let held := (s.key :: s.outer).filterMap id
  s.tokens.reverse.take ((held.map (·.number)).foldl min s.tokens.length)

/-! ### White space -/

/-- Move over white space and comments.  In a block, a key may begin on every new line, and tabs count as white
space only where no key may begin.  A line may start with a byte order mark. -/
def skip (block comment allowed : Bool) (m : Mark) : List Char → Bool × Cursor
  | [] => (allowed, ⟨m, []⟩)
  | c :: cs =>
    if isBreak c then skip block false (allowed || block) (m.advance c) cs
    else if comment || c == ' ' || (c == '\t' && !(block && allowed)) || (c == '\ufeff' && m.column == 0) then
      skip block comment allowed (m.advance c) cs
    else if c = '#' then skip block true allowed (m.advance c) cs
    else (allowed, ⟨m, c :: cs⟩)

def skipGap : Scanner :=
  let (allowed, cursor) := skip (!s.inFlow) false s.keyAllowed s.mark s.cursor.rest
  { s with cursor, keyAllowed := allowed }

/-! ### Places of keys -/

/-- The key would span lines, or be too long. -/
def isStale (k : KeyPlace) : Bool := k.mark.line < s.mark.line || k.mark.index + 1024 < s.mark.index

/-- The place can be given up. -/
def isFree (k : Option KeyPlace) : Bool := !k.any (·.required)

/-- Give up the places that are stale, unless only a key can stand in one of them. -/
def dropStale? : Option Scanner :=
  let stale (k : Option KeyPlace) : Bool := k.any s.isStale
  let keep (k : Option KeyPlace) : Option KeyPlace := if stale k then none else k
  if (s.key :: s.outer).all fun k => !stale k || isFree k then
    some { s with key := keep s.key, outer := s.outer.map keep }
  else none

def dropKey : Option Scanner := if isFree s.key then some { s with key := none } else none

/-- The next token may become a key. -/
def saveKey : Option Scanner :=
  if s.keyAllowed then do
    let s ← s.dropKey
    let required := !s.inFlow && s.indents.head? == some s.mark.column
    return { s with key := some ⟨s.tokens.length, required, s.mark⟩ }
  else some s

/-! ### Tokens -/

def emit (t : Token) (k : Cursor) : Scanner :=
  { s with tokens := ⟨t, s.mark, k.mark⟩ :: s.tokens, cursor := k }

/-- A token of `n` characters. -/
def take (n : Nat) (t : Token) : Scanner := s.emit t (s.cursor.drop n)

/-- Put an empty token before all but the first `number` tokens. -/
def insert (number : Nat) (t : Token) (m : Mark) : Scanner :=
  let later := s.tokens.length - number
  { s with tokens := s.tokens.take later ++ ⟨t, m, m⟩ :: s.tokens.drop later }

/-- Begin a block collection if the column is further in than the innermost one. -/
def indent (number : Nat) (t : Token) (m : Mark) : Scanner :=
  if s.inFlow || m.column < s.floor then s
  else { s.insert number t m with indents := m.column :: s.indents }

/-- End the block collections that satisfy `p`, from the innermost one on. -/
def closeWhile (p : Nat → Bool) : Scanner :=
  if s.inFlow then s
  else
    { s with
      tokens := (s.indents.takeWhile p).map (fun _ => ⟨.blockEnd, s.mark, s.mark⟩) ++ s.tokens
      indents := s.indents.dropWhile p }

/-- End the block collections that are further in than the column. -/
def closeTo (column : Nat) : Scanner := s.closeWhile (column < ·)

def closeAll : Scanner := s.closeWhile fun _ => true

def flowStart (t : Token) : Option Scanner := do
  let s ← s.saveKey
  return { s.take 1 t with outer := s.key :: s.outer, key := none, keyAllowed := true }

def flowEnd (t : Token) : Option Scanner := do
  let s ← s.dropKey
  return { s.take 1 t with key := s.outer.head?.getD none, outer := s.outer.tail, keyAllowed := false }

def flowEntry : Option Scanner := do
  let s ← s.dropKey
  return { s.take 1 .flowEntry with keyAllowed := true }

/-- An indicator that begins a block collection needs a place where keys may begin. -/
def openBlock (t : Token) : Option Scanner :=
  if s.inFlow then some s
  else if s.keyAllowed then some (s.indent s.tokens.length t s.mark)
  else none

def blockEntry : Option Scanner := do
  let s ← s.openBlock .blockSequenceStart
  let s ← s.dropKey
  return { s.take 1 .blockEntry with keyAllowed := true }

def keyIndicator : Option Scanner := do
  let s ← s.openBlock .blockMappingStart
  let s ← s.dropKey
  return { s.take 1 .key with keyAllowed := !s.inFlow }

def valueIndicator : Option Scanner :=
  match s.key with
  | some k =>
    let s := (s.insert k.number .key k.mark).indent k.number .blockMappingStart k.mark
    some { s.take 1 .value with key := none, keyAllowed := false }
  | none => do
    let s ← s.openBlock .blockMappingStart
    return { s.take 1 .value with keyAllowed := !s.inFlow }

def name (t : String → Token) : Option Scanner := do
  let s ← s.saveKey
  let (name, k) ← scanName? (s.cursor.drop 1)
  return { s.emit (t name) k with keyAllowed := false }

def tag : Option Scanner := do
  let s ← s.saveKey
  let (t, k) ← Tag.scan? s.inFlow s.cursor
  return { s.emit t k with keyAllowed := false }

def plain : Option Scanner := do
  let s ← s.saveKey
  let (d, k) ← Plain.scan s.inFlow s.floor {} s.mark s.cursor.rest
  return { s.emit (.scalar (String.ofList d.chars) .plain) k with keyAllowed := d.gap.isLines }

def quoted (double : Bool) : Option Scanner := do
  let s ← s.saveKey
  let k := s.cursor.drop 1
  let (cs, k) ← Quoted.scan double {} .nothing k.mark k.rest
  return { s.emit (.scalar (String.ofList cs) (if double then .doubleQuoted else .singleQuoted)) k with
    keyAllowed := false }

def block (literal : Bool) : Option Scanner := do
  let s ← s.dropKey
  let k := s.cursor.drop 1
  let (h, n) := Block.header k.rest
  let k ← (k.drop n).toBreak?
  let k := k.drop 1
  let indent := h.increment.map (s.indents.head?.getD 0 + ·)
  let (b, k) ← Block.scan literal (max s.floor 1) { indent } k.mark k.rest
  return { s.emit (.scalar (String.ofList (b.text h.chomping)) (if literal then .literal else .folded)) k with
    keyAllowed := true }

def documentMark (t : Token) : Option Scanner := do
  let s ← s.closeAll.dropKey
  return { s.take 3 t with keyAllowed := false }

def directive : Option Scanner := do
  let s ← s.closeAll.dropKey
  let (t, k) ← Directive.scan? s.cursor
  return { s.emit t k with keyAllowed := false }

def streamEnd : Option Scanner := do
  let m := if s.mark.column = 0 then s.mark else ⟨s.mark.index, s.mark.line + 1, 0⟩
  let s ← ({ s with cursor := ⟨m, []⟩ }).closeAll.dropKey
  return s.take 0 .streamEnd

/-- The token that starts with `c` and goes on with `cs`. -/
def next (c : Char) (cs : List Char) : Option Scanner :=
  if s.mark.column = 0 ∧ c = '%' then s.directive
  else if s.mark.column = 0 ∧ isDocumentMark (c :: cs) then
    s.documentMark (if c = '-' then .documentStart else .documentEnd)
  else if c = '[' then s.flowStart .flowSequenceStart
  else if c = '{' then s.flowStart .flowMappingStart
  else if c = ']' then s.flowEnd .flowSequenceEnd
  else if c = '}' then s.flowEnd .flowMappingEnd
  else if c = ',' then s.flowEntry
  else if c = '-' ∧ atGap cs then s.blockEntry
  else if c = '?' ∧ (s.inFlow ∨ atGap cs) then s.keyIndicator
  else if c = ':' ∧ (s.inFlow ∨ atGap cs) then s.valueIndicator
  else if c = '*' then s.name .alias
  else if c = '&' then s.name .anchor
  else if c = '!' then s.tag
  else if c = '|' ∧ ¬ s.inFlow then s.block true
  else if c = '>' ∧ ¬ s.inFlow then s.block false
  else if c = '\'' then s.quoted false
  else if c = '"' then s.quoted true
  else if Plain.startsWith s.inFlow c cs then s.plain
  else none

/-- At least `n` characters are left, or the text ends here and is not just broken off. -/
def canSee (broken : Bool) (n : Nat) : Bool := !broken || !(s.cursor.rest.drop (n - 1)).isEmpty

/-- The scanner behind the next token, and whether it is the last one.  Places of keys go stale before a token and
behind it.  Four characters decide which token comes next, and the character behind it where it ends. -/
def step? (broken : Bool) : Option (Scanner × Bool) := do
  let s ← s.skipGap.dropStale?
  guard (s.canSee broken 4)
  let s := s.closeTo s.mark.column
  match s.cursor.rest with
  | [] => return (← (← s.streamEnd).dropStale?, true)
  | c :: cs =>
    let s ← s.next c cs
    guard (s.canSee broken 1)
    return (← s.dropStale?, false)

/-- Scan on for at most `fuel` tokens.  Where a step fails, the places of keys before it hold tokens back. -/
def run (broken : Bool) : Nat → Scanner → List Lexeme
  | 0, s => s.delivered
  | fuel + 1, s =>
    match s.step? broken with
    | none => s.delivered
    | some (s, true) => s.delivered
    | some (s, false) => run broken fuel s

end Scanner

/-- How many bytes a portion has room for. -/
def portionSize : Nat := 16384

/-- How many characters stand before the portion with the first character that no text may hold; `none` if there is
no such character.  Of the portion at hand, `taken` characters in `size` bytes went by, and `before` before it. -/
def brokenAt? (before taken size : Nat) : List Char → Option Nat
  | [] => none
  | c :: cs =>
    if size + c.utf8Size ≤ portionSize then
      if isAllowed c then brokenAt? before (taken + 1) (size + c.utf8Size) cs else some before
    else if isAllowed c then brokenAt? (before + taken) 1 c.utf8Size cs
    else some (before + taken)

/-- The tokens of a text.  Every token but the last takes a character at least. -/
def Lexeme.ofText (text : String) : List Lexeme :=
  let cs := text.toList
  let scan (broken : Bool) (cs : List Char) : List Lexeme :=
    Scanner.run broken (cs.length + 1) { cursor := ⟨{}, unifyBreaks cs⟩ }
  match brokenAt? 0 0 0 cs with
  | none => scan false cs
  | some n => scan true (cs.take n)

end CommitCharts.Yaml
