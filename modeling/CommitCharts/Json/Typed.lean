import CommitCharts.Json.Skip

/-!
# CommitCharts.Json.Typed — values of a wanted type

Readers of strings and numbers, and the steps from item to item of lists and from field to field of objects.
-/

namespace CommitCharts.Json

/-- The fault of a value of another type than the wanted one.  Scalars are read to the end. -/
def wrongType (expected : String) (k : Cursor) : Fault :=
  let fault (found : Found) (k : Cursor) : Fault := ⟨.wrongType found expected, k.place⟩
  let word (found : Found) (letters : String) : Fault :=
    match readWord (k.drop 1) letters.toList with
    | .ok k => fault found k
    | .error e => e
  let number (r : Read (Number × Cursor)) : Fault :=
    match r with
    | .ok (.integer n, k) => fault (.integer n) k
    | .ok (.float x, k) => fault (.float x) k
    | .error e => e
  match k.rest with
  | 'n' :: _ => word .null "ull"
  | 't' :: _ => word (.boolean true) "rue"
  | 'f' :: _ => word (.boolean false) "alse"
  | '-' :: _ => number (readNumber true (k.drop 1))
  | '"' :: _ =>
    match readString (k.drop 1) with
    | .ok (s, k) => fault (.string s) k
    | .error e => e
  | '[' :: _ => fault .sequence k
  | '{' :: _ => fault .map k
  | c :: _ => if Decimal.isDigit c then number (readNumber false k) else ⟨.malformed .valueExpected, k.peek⟩
  | [] => ⟨.malformed .valueExpected, k.peek⟩

/-- A value at the next character that is no white space. -/
def atValue {α : Type} (read : Cursor → Read α) (k : Cursor) : Read α :=
  let k := k.skipBlank
  if k.rest.isEmpty then malformed .endOfValue k.place else read k

def stringValue : Cursor → Read (String × Cursor) :=
  atValue fun k =>
    match k.rest with
    | '"' :: _ => readString (k.drop 1)
    | _ => .error (wrongType "a string" k)

/-- An integer from zero up to below `bound`. -/
def naturalValue (bound : Nat) (expected : String) : Cursor → Read (Nat × Cursor) :=
  atValue fun k =>
    let number (r : Read (Number × Cursor)) : Read (Nat × Cursor) :=
      match r with
      | .ok (.integer n, k) =>
        if 0 ≤ n ∧ n < bound then .ok (n.toNat, k) else .error ⟨.outOfRange (.integer n) expected, k.place⟩
      | .ok (.float x, k) => .error ⟨.wrongType (.float x) expected, k.place⟩
      | .error e => .error e
    match k.rest with
    | '-' :: _ => number (readNumber true (k.drop 1))
    | c :: _ => if Decimal.isDigit c then number (readNumber false k) else .error (wrongType expected k)
    | [] => .error (wrongType expected k)

/-! ### Lists -/

/-- Whether an item follows, and the cursor at it or at the end of the list. -/
def nextItem (first : Bool) (k : Cursor) : Read (Bool × Cursor) :=
  let k := k.skipBlank
  match k.rest with
  | [] => malformed .endOfList k.place
  | ']' :: _ => .ok (false, k)
  | c :: _ =>
    if first then .ok (true, k)
    else if c = ',' then
      let k := (k.drop 1).skipBlank
      match k.rest with
      | ']' :: _ => malformed .trailingComma k.peek
      | [] => malformed .endOfValue k.place
      | _ => .ok (true, k)
    else malformed .listEndExpected k.peek

/-- The end of a list of which all wanted items were read. -/
def endList (k : Cursor) : Read Cursor :=
  let k := k.skipBlank
  match k.rest with
  | [] => malformed .endOfList k.place
  | ']' :: _ => .ok (k.drop 1)
  | ',' :: _ =>
    let k := (k.drop 1).skipBlank
    malformed (if k.rest.head? = some ']' then .trailingComma else .trailingCharacters) k.peek
  | _ => malformed .trailingCharacters k.peek

/-! ### Objects -/

/-- The key of the next field and the cursor behind it; none at the end of the object. -/
def nextKey (first : Bool) (k : Cursor) : Read (Option String × Cursor) :=
  let k := k.skipBlank
  let key (k : Cursor) : Read (Option String × Cursor) := (readString (k.drop 1)).map fun r => (some r.1, r.2)
  match k.rest with
  | [] => malformed .endOfObject k.place
  | '}' :: _ => .ok (none, k)
  | c :: _ =>
    if first then (if c = '"' then key k else malformed .keyExpected k.peek)
    else if c = ',' then
      let k := (k.drop 1).skipBlank
      match k.rest with
      | '"' :: _ => key k
      | '}' :: _ => malformed .trailingComma k.peek
      | [] => malformed .endOfValue k.place
      | _ => malformed .keyExpected k.peek
    else malformed .objectEndExpected k.peek

/-- The colon behind a key. -/
def colon (k : Cursor) : Read Cursor :=
  let k := k.skipBlank
  match k.rest with
  | ':' :: _ => .ok (k.drop 1)
  | [] => malformed .endOfObject k.place
  | _ => malformed .colonExpected k.peek

/-- The place of a fault in the fields of an object that ends here or goes on. -/
def objectPlace (k : Cursor) : Place :=
  let k := k.skipBlank
  if k.rest.head? = some '}' then (k.drop 1).place else k.place

/-- Nothing but white space follows. -/
def endText (k : Cursor) : Read Unit :=
  let k := k.skipBlank
  if k.rest.isEmpty then .ok () else malformed .trailingCharacters k.peek

end CommitCharts.Json
