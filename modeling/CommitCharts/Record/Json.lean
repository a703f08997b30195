import CommitCharts.Json.Typed
import CommitCharts.Json.Value
import CommitCharts.Record

/-!
# CommitCharts.Record.Json — records in JSON

A record is written as an object of its four fields.  It is read from such an object, whose fields may stand in
any order and among others, or from a list of the four values in order.
-/

namespace CommitCharts.Record

def toJson (r : Record) : Json.Value :=
  .object [("commit", .string r.commit), ("test_id", .number r.testId.toNat), ("test_name", .string r.testName),
    ("cycles", .number r.cycles.toNat)]

open Json (Cursor Read)

inductive Field where
  | commit
  | testId
  | testName
  | cycles
  deriving DecidableEq, Repr

def Field.name : Field → String
  | .commit => "commit"
  | .testId => "test_id"
  | .testName => "test_name"
  | .cycles => "cycles"

def Field.ofName? (s : String) : Option Field := [commit, testId, testName, cycles].find? (·.name == s)

/-- The fields that were read. -/
structure Partial where
  commit : Option String := none
  testId : Option TestId := none
  testName : Option String := none
  cycles : Option UInt64 := none

def Partial.has (p : Partial) : Field → Bool
  | .commit => p.commit.isSome
  | .testId => p.testId.isSome
  | .testName => p.testName.isSome
  | .cycles => p.cycles.isSome

/-- The whole record, or the first field that is missing. -/
def Partial.whole (p : Partial) : Except Field Record := do
  let some commit := p.commit | throw .commit
  let some testId := p.testId | throw .testId
  let some testName := p.testName | throw .testName
  let some cycles := p.cycles | throw .cycles
  return { commit, testId, testName, cycles }

def readTestId (k : Cursor) : Read (TestId × Cursor) :=
  (Json.naturalValue UInt32.size "u32" k).map fun r => (r.1.toUInt32, r.2)

def readCycles (k : Cursor) : Read (UInt64 × Cursor) :=
  (Json.naturalValue UInt64.size "u64" k).map fun r => (r.1.toUInt64, r.2)

def Partial.read (p : Partial) (f : Field) (k : Cursor) : Read (Partial × Cursor) :=
  match f with
  | .commit => (Json.stringValue k).map fun r => ({ p with commit := some r.1 }, r.2)
  | .testId => (readTestId k).map fun r => ({ p with testId := some r.1 }, r.2)
  | .testName => (Json.stringValue k).map fun r => ({ p with testName := some r.1 }, r.2)
  | .cycles => (readCycles k).map fun r => ({ p with cycles := some r.1 }, r.2)

/-- The fields of an object, and the cursor behind its end.  Every field takes characters, so the length of the
text is fuel enough. -/
def readFields (fuel : Nat) (first : Bool) (p : Partial) (k : Cursor) : Read (Record × Cursor) :=
  match fuel with
  | 0 => Json.malformed .endOfObject k.place
  | fuel + 1 => do
    let (key, k) ← Json.nextKey first k
    match key with
    | none =>
      match p.whole with
      | .ok r => return (r, k.drop 1)
      | .error f => throw ⟨.missingField f.name, Json.objectPlace k⟩
    | some name =>
      match Field.ofName? name with
      | some f =>
        if p.has f then throw ⟨.duplicateField f.name, Json.objectPlace k⟩
        let k ← Json.colon k
        let (p, k) ← p.read f k
        readFields fuel false p k
      | none =>
        let k ← Json.colon k
        let k ← Json.skip k
        readFields fuel false p k

/-- The next item of a list, of which `count` were read. -/
def readItem {α : Type} (count : Nat) (value : Cursor → Read (α × Cursor)) (k : Cursor) : Read (α × Cursor) := do
  let (more, k) ← Json.nextItem (count == 0) k
  if more then value k
  else throw ⟨.wrongLength count "struct RawRecord with 4 elements", (k.drop 1).place⟩

def readList (k : Cursor) : Read (Record × Cursor) := do
  let (commit, k) ← readItem 0 Json.stringValue k
  let (testId, k) ← readItem 1 readTestId k
  let (testName, k) ← readItem 2 Json.stringValue k
  let (cycles, k) ← readItem 3 readCycles k
  let k ← Json.endList k
  return ({ commit, testId, testName, cycles }, k)

/-- A record at a cursor. -/
def read : Cursor → Read (Record × Cursor) :=
  Json.atValue fun k =>
    match k.rest with
    | '{' :: _ => readFields (k.rest.length + 1) true {} (k.drop 1)
    | '[' :: _ => readList (k.drop 1)
    | _ => .error (Json.wrongType "struct RawRecord" k)

/-- The record that a text holds. -/
def ofJson (text : String) : Read Record := do
  let (r, k) ← read ⟨{}, text.toList⟩
  Json.endText k
  return r

end CommitCharts.Record
