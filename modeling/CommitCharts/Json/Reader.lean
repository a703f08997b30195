import CommitCharts.Json.Typed
import CommitCharts.Json.Value

/-!
# CommitCharts.Json.Reader — reading values of any kind

A value is read by its first character.  The fields of an object keep their order, and names may occur twice.  Numbers
are integers of at most 64 bits; others are refused.
-/

namespace CommitCharts.Json

/-- An integer at its sign or its first digit. -/
def readInteger (k : Cursor) : Read (Int × Cursor) :=
  let negative := k.rest.head? == some '-'
  match readNumber negative (if negative then k.drop 1 else k) with
  | .ok (.integer n, k) => .ok (n, k)
  | .ok (.float x, k) => .error ⟨.wrongType (.float x) "an integer", k.place⟩
  | .error e => .error e

mutual

def readValue (fuel : Nat) (k : Cursor) : Read (Value × Cursor) :=
  match fuel with
  | 0 => malformed .valueExpected k.peek
  | fuel + 1 =>
    let k := k.skipBlank
    match k.rest with
    | [] => malformed .endOfValue k.place
    | c :: _ =>
      if c = 'n' then (readWord (k.drop 1) "ull".toList).map (.null, ·)
      else if c = 't' then (readWord (k.drop 1) "rue".toList).map (.bool true, ·)
      else if c = 'f' then (readWord (k.drop 1) "alse".toList).map (.bool false, ·)
      else if c = '"' then (readString (k.drop 1)).map fun r => (.string r.1, r.2)
      else if c = '[' then (readItems fuel true (k.drop 1)).map fun r => (.array r.1, r.2)
      else if c = '{' then (readFields fuel true (k.drop 1)).map fun r => (.object r.1, r.2)
      else (readInteger k).map fun r => (.number r.1, r.2)

/-- The items of a list up to its end. -/
def readItems (fuel : Nat) (first : Bool) (k : Cursor) : Read (List Value × Cursor) :=
  match fuel with
  | 0 => malformed .valueExpected k.peek
  | fuel + 1 => do
    let (more, k) ← nextItem first k
    if more then
      let (v, k) ← readValue fuel k
      let (vs, k) ← readItems fuel false k
      return (v :: vs, k)
    else return ([], k.drop 1)

/-- The fields of an object up to its end. -/
def readFields (fuel : Nat) (first : Bool) (k : Cursor) : Read (List (String × Value) × Cursor) :=
  match fuel with
  | 0 => malformed .valueExpected k.peek
  | fuel + 1 => do
    let (key, k) ← nextKey first k
    match key with
    | none => return ([], k.drop 1)
    | some name =>
      let k ← colon k
      let (v, k) ← readValue fuel k
      let (fs, k) ← readFields fuel false k
      return ((name, v) :: fs, k)

end

/-- The value that a text holds.  Each level of nesting and each item takes a character, so that the length of the text
bounds them. -/
def Value.ofText (text : String) : Read Value := do
  let (v, k) ← readValue (text.toList.length + 1) ⟨{}, text.toList⟩
  endText k
  return v

end CommitCharts.Json
