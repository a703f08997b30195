/-!
# CommitCharts.Path — file paths as text

A path is the text it was written as; nothing is normalised.  An absolute path starts with a slash.  Segments
between slashes that are empty, or a single dot anywhere but at the start, do not count as components.
-/

namespace CommitCharts

structure Path where
  text : String
  deriving DecidableEq, Repr, Inhabited

namespace Path

instance : ToString Path := ⟨text⟩

def isAbsolute (p : Path) : Bool := p.text.toList.head? == some '/'

def endsInSlash (p : Path) : Bool := p.text.toList.getLast? == some '/'

/-- The path without the slashes at its end; the root stays. -/
def dropSlashes (p : Path) : Path :=
  let cs := (p.text.toList.reverse.dropWhile (· == '/')).reverse
  if cs.isEmpty && p.isAbsolute then ⟨"/"⟩ else ⟨String.ofList cs⟩

/-- An absolute right side replaces the left one; otherwise a slash is put between unless the left side is
empty or ends in one. -/
def join (p q : Path) : Path :=
  if q.isAbsolute then q
  else if p.text.isEmpty || p.endsInSlash then ⟨p.text ++ q.text⟩
  else ⟨p.text ++ "/" ++ q.text⟩

/-- The texts between the slashes, empty ones included. -/
def split : List Char → List (List Char)
  | [] => [[]]
  | c :: cs =>
    if c = '/' then [] :: split cs
    else match split cs with
      | s :: ss => (c :: s) :: ss
      | [] => [[c]]

def segments (p : Path) : List String := (split p.text.toList).map String.ofList

/-- A segment that is no component unless it stands first. -/
def isNoise (segment : String) : Bool := segment.isEmpty || segment == "."

def dropNoise (segments : List String) : List String := (segments.reverse.dropWhile isNoise).reverse

/-- The path without its last component; none if there is no component. -/
def parent? (p : Path) : Option Path :=
  match p.segments with
  | [] => none
  | first :: rest =>
    match (dropNoise rest).reverse with
    | _ :: before =>
      if p.isAbsolute && (dropNoise before.reverse).isEmpty then some ⟨"/"⟩
      else some ⟨"/".intercalate (first :: dropNoise before.reverse)⟩
    | [] => if first.isEmpty then none else some ⟨""⟩

theorem split_ne_nil (cs : List Char) : split cs ≠ [] := by
  cases cs with
  | nil => simp [split]
  | cons c cs =>
    unfold split
    split
    · simp
    · split <;> simp

theorem join_absolute {p q : Path} (h : q.isAbsolute) : p.join q = q := by simp [join, h]

end Path

end CommitCharts
