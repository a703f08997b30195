import CommitCharts.Json.Scan

/-!
# CommitCharts.Json.Skip — moving over values

A value that nobody asks for only has to be well formed.
-/

namespace CommitCharts.Json

mutual

/-- Move over a value. -/
def skipValue (fuel : Nat) (k : Cursor) : Read Cursor :=
  match fuel with
  | 0 => malformed .valueExpected k.peek
  | fuel + 1 =>
    let k := k.skipBlank
    match k.rest with
    | [] => malformed .endOfValue k.place
    | c :: _ =>
      if c = 'n' then readWord (k.drop 1) "ull".toList
      else if c = 't' then readWord (k.drop 1) "rue".toList
      else if c = 'f' then readWord (k.drop 1) "alse".toList
      else if c = '-' then skipNumber (k.drop 1)
      else if Decimal.isDigit c then skipNumber k
      else if c = '"' then skipString false (k.drop 1).place (k.drop 1).rest
      else if c = '[' then skipItems fuel true (k.drop 1)
      else if c = '{' then skipFields fuel true (k.drop 1)
      else malformed .valueExpected k.peek

/-- Move over the items of a list and its end. -/
def skipItems (fuel : Nat) (first : Bool) (k : Cursor) : Read Cursor :=
  match fuel with
  | 0 => malformed .valueExpected k.peek
  | fuel + 1 =>
    let k := k.skipBlank
    match k.rest with
    | [] => malformed .endOfList k.place
    | c :: _ =>
      if c = ']' then .ok (k.drop 1)
      else if first ∨ c = ',' then do
        let k ← skipValue fuel (if first then k else k.drop 1)
        skipItems fuel false k
      else malformed .listEndExpected k.peek

/-- Move over the fields of an object and its end. -/
def skipFields (fuel : Nat) (first : Bool) (k : Cursor) : Read Cursor :=
  match fuel with
  | 0 => malformed .valueExpected k.peek
  | fuel + 1 =>
    let k := k.skipBlank
    match k.rest with
    | [] => malformed .endOfObject k.place
    | c :: _ =>
      if c = '}' then .ok (k.drop 1)
      else if first ∨ c = ',' then do
        let k := (if first then k else k.drop 1).skipBlank
        if k.rest.head? ≠ some '"' then malformed (if k.rest.isEmpty then .endOfObject else .keyExpected) k.peek
        let k ← skipString false (k.drop 1).place (k.drop 1).rest
        let k := k.skipBlank
        if k.rest.head? ≠ some ':' then malformed (if k.rest.isEmpty then .endOfObject else .colonExpected) k.peek
        let k ← skipValue fuel (k.drop 1)
        skipFields fuel false k
      else malformed .objectEndExpected k.peek

end

/-- Move over a value.  Each level of nesting and each item takes a character, and two units of fuel at most. -/
def skip (k : Cursor) : Read Cursor := skipValue (2 * k.rest.length + 2) k

end CommitCharts.Json
