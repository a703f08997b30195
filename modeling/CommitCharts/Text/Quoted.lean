import CommitCharts.Text.CaseTable
import CommitCharts.Text.Unprintable

/-!
# CommitCharts.Text.Quoted — text in messages

A text in a message stands in double quotes.  The quote, the backslash, tabs and line ends have short
escapes; other characters that do not show on their own are written by number.
-/

namespace CommitCharts.Text

def isUnprintable (c : Char) : Bool := inRanges unprintableRanges c.toNat

def escape (c : Char) : List Char :=
  if c = '"' then ['\\', '"']
  else if c = '\\' then ['\\', '\\']
  else if c = '\n' then ['\\', 'n']
  else if c = '\r' then ['\\', 'r']
  else if c = '\t' then ['\\', 't']
  else if c = '\x00' then ['\\', '0']
  else if isUnprintable c then ['\\', 'u', '\x7b'] ++ Nat.toDigits 16 c.toNat ++ ['\x7d']
  else [c]

def quoted (s : String) : String := String.ofList ('"' :: (s.toList.flatMap escape ++ ['"']))

end CommitCharts.Text
