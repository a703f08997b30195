import CommitCharts.Text.Blank
import CommitCharts.Text.LowerCase

/-!
# CommitCharts.Catalog — the performance tests that are charted

A catalog is an ordered list of tests.  Its order is the order of table columns, bars and charts, and its
length decides which commits count as complete.  The name of a test gives its legend texts and the word
that stands in its file names.
-/

namespace CommitCharts

abbrev TestId := UInt32

structure Rgb where
  red : UInt8
  green : UInt8
  blue : UInt8
  deriving DecidableEq, Repr, Inhabited

structure Test where
  id : TestId
  name : String
  color : Rgb
  deriving DecidableEq, Repr, Inhabited

namespace Test

/-- What follows the first colon of the name, or the whole name if it has none, trimmed. -/
def shortName (t : Test) : String :=
  match t.name.toList.dropWhile (· ≠ ':') with
  | _ :: rest => String.ofList (Text.trimChars rest)
  | [] => Text.trim t.name

/-- Each opening bracket that follows a blank disappears. -/
def dropOpening : List Char → List Char
  | ' ' :: '(' :: cs => ' ' :: dropOpening cs
  | c :: cs => c :: dropOpening cs
  | [] => []

/-- The short name without the brackets around its size. -/
def flatName (t : Test) : String :=
  String.ofList ((dropOpening t.shortName.toList).filter (· ≠ ')'))

/-- The first word of the short name, in lower case. -/
def fileWord (t : Test) : String := Text.lowerCase (Text.firstWord t.shortName)

end Test

structure Catalog where
  tests : List Test
  deriving DecidableEq, Repr, Inhabited

namespace Catalog

def size (c : Catalog) : Nat := c.tests.length

def isEmpty (c : Catalog) : Bool := c.tests.isEmpty

def ids (c : Catalog) : List TestId := c.tests.map (·.id)

def contains (c : Catalog) (id : TestId) : Bool := c.tests.any (·.id == id)

/-- The first test with the given id. -/
def get? (c : Catalog) (id : TestId) : Option Test := c.tests.find? (·.id == id)

/-- The five tests of the measuring harness. -/
def reference : Catalog := ⟨[
  ⟨1, "Test 1: Arithmetic (10K)", ⟨0x4A, 0x9E, 0xFF⟩⟩,
  ⟨2, "Test 2: Multiplication (5K)", ⟨0x2E, 0xCC, 0x71⟩⟩,
  ⟨3, "Test 3: Division (3K)", ⟨0xE7, 0x4C, 0x3C⟩⟩,
  ⟨4, "Test 4: Bit Ops (8K)", ⟨0xF3, 0x9C, 0x12⟩⟩,
  ⟨5, "Test 5: Loops (10K)", ⟨0x9B, 0x59, 0xB6⟩⟩]⟩

@[simp] theorem length_ids (c : Catalog) : c.ids.length = c.size := by simp [ids, size]

theorem size_pos_iff {c : Catalog} : 0 < c.size ↔ c.ids ≠ [] := by rw [← length_ids, List.length_pos_iff]

theorem contains_iff {c : Catalog} {id : TestId} : c.contains id = true ↔ id ∈ c.ids := by
  simp [contains, ids]

theorem get?_isSome {c : Catalog} {id : TestId} : (c.get? id).isSome = c.contains id := by
  rw [Bool.eq_iff_iff]; simp [get?, contains]

end Catalog

end CommitCharts
