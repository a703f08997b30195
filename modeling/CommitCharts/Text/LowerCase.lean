import CommitCharts.Text.CaseTable

/-!
# CommitCharts.Text.LowerCase — lower case of a whole text

Each character goes to its lower-case form on its own, with two exceptions: `İ` becomes `i` and a dot above,
and a capital sigma at the end of a word takes the final form `ς`.
-/

namespace CommitCharts.Text

def isCased (c : Char) : Bool := inRanges casedRanges c.toNat

def isCaseIgnorable (c : Char) : Bool := inRanges caseIgnorableRanges c.toNat

def lowerChar (c : Char) : Char :=
  match lowerRuns.find? (·.covers c.toNat) with
  | some r => Char.ofNat (c.toNat + r.shift).toNat
  | none => c

/-- Past the characters that case conversion ignores, the list goes on with a cased one. -/
def reachesCased (cs : List Char) : Bool :=
  match cs.dropWhile isCaseIgnorable with
  | c :: _ => isCased c
  | [] => false

/-- The lower-case form of `c` between the characters before it, nearest first, and those after it. -/
def lowerAt (before : List Char) (c : Char) (after : List Char) : List Char :=
  if c = 'Σ' then
    if reachesCased before && !reachesCased after then ['ς'] else ['σ']
  else if c = 'İ' then ['i', '\u0307']
  else [lowerChar c]

def lowerFrom (before : List Char) : List Char → List Char
  | [] => []
  | c :: cs => lowerAt before c cs ++ lowerFrom (c :: before) cs

def lowerCase (s : String) : String := String.ofList (lowerFrom [] s.toList)

end CommitCharts.Text
