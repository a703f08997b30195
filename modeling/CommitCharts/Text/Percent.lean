import CommitCharts.Text.Utf8

/-!
# CommitCharts.Text.Percent — bytes written with percent signs

A percent sign with two digits of base sixteen behind it stands for a byte.  One that stands for zero ends the
text.
-/

namespace CommitCharts.Text

def hexDigit? (b : UInt8) : Option Nat :=
  if 48 ≤ b ∧ b ≤ 57 then some (b.toNat - 48)
  else if 65 ≤ b ∧ b ≤ 70 then some (b.toNat - 55)
  else if 97 ≤ b ∧ b ≤ 102 then some (b.toNat - 87)
  else none

/-- The bytes that some bytes stand for.  The number counts the digits still to be passed over. -/
def percentBytes : Nat → List UInt8 → List UInt8
  | _, [] => []
  | passed + 1, _ :: bs => percentBytes passed bs
  | 0, b :: bs =>
    let value? := do
      guard (b = 37)
      return 16 * (← bs.head?.bind hexDigit?) + (← bs.tail.head?.bind hexDigit?)
    match value? with
    | some 0 => []
    | some n => n.toUInt8 :: percentBytes 2 bs
    | none => b :: percentBytes 0 bs

/-- The text that a text stands for, if its bytes are well-formed. -/
def percentDecode (s : String) : Option String :=
  String.fromUTF8? ⟨(percentBytes 0 s.toUTF8.data.toList).toArray⟩

end CommitCharts.Text
