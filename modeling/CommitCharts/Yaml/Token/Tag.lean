import CommitCharts.Text.Radix
import CommitCharts.Text.Utf8
import CommitCharts.Yaml.Token

/-!
# CommitCharts.Yaml.Token.Tag — anchors, tags and directives

The names that properties of nodes and directives are made of.
-/

namespace CommitCharts.Yaml

/-- A name behind its indicator; white space or one of a few indicators has to follow. -/
def scanName? (k : Cursor) : Option (String × Cursor) :=
  let name := k.rest.takeWhile isWordChar
  let k := k.dropWhile isWordChar
  let ends := atGap k.rest || k.rest.head?.any "?:,]\x7d%@`".toList.contains
  if name.isEmpty || !ends then none else some (String.ofList name, k)

namespace Tag

def isTagChar (verbatim : Bool) (c : Char) : Bool :=
  isWordChar c || ";/?:@&=+$.!~*'()".toList.contains c || (verbatim && (c == ',' || c == '[' || c == ']'))

/-- The bytes of a tag; a percent sign stands before two hexadecimal digits. -/
def bytes? : List Char → Option (List UInt8)
  | [] => some []
  | '%' :: a :: b :: cs => do
    let x ← Text.digit? 16 a
    let y ← Text.digit? 16 b
    return (16 * x + y).toUInt8 :: (← bytes? cs)
  | c :: cs => if c = '%' then none else (bytes? cs).map (c.toNat.toUInt8 :: ·)

/-- How many bytes follow the first byte of a character. -/
def following? (b : UInt8) : Option Nat :=
  if b < 0x80 then some 0
  else if 0xC0 ≤ b ∧ b < 0xE0 then some 1
  else if 0xE0 ≤ b ∧ b < 0xF0 then some 2
  else if 0xF0 ≤ b ∧ b < 0xF8 then some 3
  else none

/-- Every first byte has as many bytes behind it as it asks for; `open_` more are due at the start. -/
def isShaped (open_ : Nat) : List UInt8 → Bool
  | [] => open_ == 0
  | b :: bs =>
    if open_ = 0 then
      match following? b with
      | some n => isShaped n bs
      | none => false
    else b / 0x40 == 2 && isShaped (open_ - 1) bs

/-- The characters of a tag at a cursor. -/
def scanChars? (verbatim : Bool) (k : Cursor) : Option (String × Cursor) := do
  let run := k.rest.takeWhile fun c => isTagChar verbatim c || c == '%'
  let bytes ← bytes? run
  if isShaped 0 bytes then some (Text.lossy bytes, k.drop run.length) else none

/-- A handle: an exclamation mark, and perhaps a word with another one behind it. -/
def scanHandle? (k : Cursor) : Option (String × Cursor) :=
  match k.rest with
  | '!' :: cs =>
    let word := cs.takeWhile isWordChar
    let k := k.drop (word.length + 1)
    match k.rest with
    | '!' :: _ => some (String.ofList ('!' :: word ++ ['!']), k.drop 1)
    | _ => some (String.ofList ('!' :: word), k)
  | _ => none

/-- The two parts of a tag: whole in angle brackets, behind a named handle, or behind the primary one. -/
def scanParts? (k : Cursor) : Option ((String × String) × Cursor) :=
  match k.rest with
  | '!' :: '<' :: _ => do
    let (whole, k) ← scanChars? true (k.drop 2)
    if whole.isEmpty then none
    else match k.rest with
      | '>' :: _ => some (("", whole), k.drop 1)
      | _ => none
  | _ => do
    let (handle, k) ← scanHandle? k
    if 1 < handle.length && handle.toList.getLast? == some '!' then
      let (suffix, k) ← scanChars? false k
      if suffix.isEmpty then none else some ((handle, suffix), k)
    else
      let (more, k) ← scanChars? false k
      let suffix := String.ofList (handle.toList.drop 1) ++ more
      if suffix.isEmpty then some (("", "!"), k) else some (("!", suffix), k)

/-- A tag, and white space or, between brackets, a comma behind it. -/
def scan? (flow : Bool) (k : Cursor) : Option (Token × Cursor) := do
  let ((handle, suffix), k) ← scanParts? k
  if atGap k.rest || (flow && k.rest.head? == some ',') then some (.tag handle suffix, k) else none

end Tag

namespace Directive

/-- A number of at most nine digits. -/
def scanNumber? (k : Cursor) : Option (Nat × Cursor) :=
  let ds := k.rest.takeWhile Char.isDigit
  if 9 < ds.length then none else (Text.number? 10 ds).map fun n => (n, k.dropWhile Char.isDigit)

def scanVersion? (k : Cursor) : Option (Token × Cursor) := do
  let (major, k) ← scanNumber? (k.dropWhile isBlank)
  match k.rest with
  | '.' :: _ =>
    let (minor, k) ← scanNumber? (k.drop 1)
    some (.versionDirective major minor, k)
  | _ => none

def scanTag? (k : Cursor) : Option (Token × Cursor) := do
  let (handle, k) ← Tag.scanHandle? (k.dropWhile isBlank)
  let isHandle := handle == "!" || handle.toList.getLast? == some '!'
  if !isHandle || !k.rest.head?.any isBlank then none
  else
    let (target, k) ← Tag.scanChars? true (k.dropWhile isBlank)
    if target.isEmpty || !atGap k.rest then none else some (.tagDirective handle target, k)

/-- A directive up to the end of its line, and the cursor on the next line. -/
def scan? (k : Cursor) : Option (Token × Cursor) := do
  let k := k.drop 1
  let name := k.rest.takeWhile isWordChar
  let k := k.dropWhile isWordChar
  if !atGap k.rest then none
  else
    let (token, k) ← if name = "YAML".toList then scanVersion? k
      else if name = "TAG".toList then scanTag? k
      else none
    let k ← k.toBreak?
    some (token, k.drop 1)

end Directive

end CommitCharts.Yaml
