import CommitCharts.Text.Radix
import CommitCharts.Yaml.Scalar

/-!
# CommitCharts.Yaml.Scalar.Quoted — quoted scalars

In single quotes only the quote itself is special: it is written twice.  In double quotes a backslash starts an
escape, and hides a line end.
-/

namespace CommitCharts.Yaml.Quoted

/-- The character that a one-letter escape stands for. -/
def escaped? (c : Char) : Option Char :=
  match c with
  | '0' => some '\x00'
  | 'a' => some '\x07'
  | 'b' => some '\x08'
  | 't' => some '\t'
  | '\t' => some '\t'
  | 'n' => some '\n'
  | 'v' => some '\x0b'
  | 'f' => some '\x0c'
  | 'r' => some '\r'
  | 'e' => some '\x1b'
  | ' ' => some ' '
  | '"' => some '"'
  | '/' => some '/'
  | '\\' => some '\\'
  | 'N' => some '\u0085'
  | '_' => some '\u00a0'
  | 'L' => some '\u2028'
  | 'P' => some '\u2029'
  | _ => none

/-- How many hexadecimal digits follow. -/
def codeLength? (c : Char) : Option Nat :=
  match c with
  | 'x' => some 2
  | 'u' => some 4
  | 'U' => some 8
  | _ => none

def char? (n : Nat) : Option Char := if n.isValidChar then some (Char.ofNat n) else none

/-- What the characters before ask of the next one. -/
inductive Pending where
  | nothing
  /-- The second of two quotes. -/
  | quote
  /-- The letter of an escape. -/
  | escape
  /-- Digits of a character code, so many and more than none. -/
  | code (left value : Nat)
  deriving DecidableEq, Repr

/-- Read on from within a quoted scalar, up to and over the closing quote. -/
def scan (double : Bool) (d : Draft) (p : Pending) (m : Mark) : List Char → Option (List Char × Cursor)
  | [] => none
  | c :: cs =>
    match p with
    | .quote => scan double (d.push c) .nothing (m.advance c) cs
    | .escape =>
      if isBreak c then scan double { d with gap := .lines none [] } .nothing (m.advance c) cs
      else match escaped? c, codeLength? c with
        | some e, _ => scan double (d.push e) .nothing (m.advance c) cs
        | none, some n => scan double d (.code n 0) (m.advance c) cs
        | none, none => none
    | .code left value =>
      match Text.digit? 16 c with
      | none => none
      | some h =>
        if 1 < left then scan double d (.code (left - 1) (16 * value + h)) (m.advance c) cs
        else match char? (16 * value + h) with
          | some e => scan double (d.push e) .nothing (m.advance c) cs
          | none => none
    | .nothing =>
      if isGap c then scan double (d.pushGap c) .nothing (m.advance c) cs
      else if m.column = 0 ∧ isDocumentMark (c :: cs) then none
      else if c = (if double then '"' else '\'') then
        if ¬ double ∧ cs.head? = some '\'' then scan double d .quote (m.advance c) cs
        else some (d.join.chars, ⟨m.advance c, cs⟩)
      else if double ∧ c = '\\' then scan double d.join .escape (m.advance c) cs
      else scan double (d.push c) .nothing (m.advance c) cs

end CommitCharts.Yaml.Quoted
