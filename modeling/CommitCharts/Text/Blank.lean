/-!
# CommitCharts.Text.Blank — white space, trimming and words

White space is the Unicode property `White_Space`: tab to carriage return, space, next line, no-break space
and the wide and separator spaces.
-/

namespace CommitCharts.Text

def isBlank (c : Char) : Bool :=
  let n := c.toNat
  (9 ≤ n && n ≤ 13) || n == 0x20 || n == 0x85 || n == 0xA0 || n == 0x1680 || (0x2000 ≤ n && n ≤ 0x200A) ||
    n == 0x2028 || n == 0x2029 || n == 0x202F || n == 0x205F || n == 0x3000

/-- The list without the elements at its end that satisfy `p`. -/
def dropEndWhile {α : Type} (p : α → Bool) (xs : List α) : List α := (xs.reverse.dropWhile p).reverse

def trimChars (cs : List Char) : List Char := dropEndWhile isBlank (cs.dropWhile isBlank)

def trim (s : String) : String := String.ofList (trimChars s.toList)

/-- The first run of characters that are not white space; empty if there is none. -/
def firstWord (s : String) : String :=
  String.ofList ((s.toList.dropWhile isBlank).takeWhile (!isBlank ·))

end CommitCharts.Text
