/-!
# CommitCharts.Text.Utf8 — bytes that are no text

Where bytes stop being well-formed UTF-8, either a sequence breaks off at the end of the bytes or one to three
bytes belong to no character.
-/

namespace CommitCharts.Text

/-- The first place at which bytes are not well-formed. -/
structure Utf8Fault where
  /-- How many bytes before it are well-formed. -/
  valid : Nat
  /-- How many bytes belong to no character; `none` if a sequence is cut off. -/
  broken : Option Nat
  deriving DecidableEq, Repr

def Utf8Fault.message (f : Utf8Fault) : String :=
  match f.broken with
  | some n => "invalid utf-8 sequence of " ++ toString n ++ " bytes from index " ++ toString f.valid
  | none => "incomplete utf-8 byte sequence from index " ++ toString f.valid

/-- The ranges of the bytes that may follow a first byte; `none` if it starts no character. -/
def utf8Tail (b : UInt8) : Option (List (UInt8 × UInt8)) :=
  let any := (0x80, 0xBF)
  if b ≤ 0x7F then some []
  else if 0xC2 ≤ b ∧ b ≤ 0xDF then some [any]
  else if b = 0xE0 then some [(0xA0, 0xBF), any]
  else if b = 0xED then some [(0x80, 0x9F), any]
  else if 0xE1 ≤ b ∧ b ≤ 0xEF then some [any, any]
  else if b = 0xF0 then some [(0x90, 0xBF), any, any]
  else if 0xF1 ≤ b ∧ b ≤ 0xF3 then some [any, any, any]
  else if b = 0xF4 then some [(0x80, 0x8F), any, any]
  else none

/-- The first fault in bytes of which `valid` went before and `taken` begin a character that still needs bytes in
the given ranges. -/
def utf8FaultFrom (valid taken : Nat) (needed : List (UInt8 × UInt8)) : List UInt8 → Option Utf8Fault
  | [] => if needed.isEmpty then none else some ⟨valid, none⟩
  | b :: bs =>
    match needed with
    | range :: ranges =>
      if range.1 ≤ b ∧ b ≤ range.2 then utf8FaultFrom valid (taken + 1) ranges bs else some ⟨valid, some taken⟩
    | [] =>
      match utf8Tail b with
      | some ranges => utf8FaultFrom (valid + taken) 1 ranges bs
      | none => some ⟨valid + taken, some 1⟩

def utf8Fault? (bytes : List UInt8) : Option Utf8Fault := utf8FaultFrom 0 0 [] bytes

/-- The text of bytes, with a mark for replacement in the place of each fault, of at most `fuel` faults. -/
def lossyFrom : Nat → List UInt8 → List Char
  | 0, _ => []
  | fuel + 1, bytes =>
    let chars (bs : List UInt8) : List Char := ((String.fromUTF8? ⟨bs.toArray⟩).getD "").toList
    match utf8Fault? bytes with
    | none => chars bytes
    | some f =>
      chars (bytes.take f.valid) ++ '\uFFFD' ::
        match f.broken with
        | some n => lossyFrom fuel (bytes.drop (f.valid + n))
        | none => []

def lossy (bytes : List UInt8) : String := String.ofList (lossyFrom (bytes.length + 1) bytes)

end CommitCharts.Text
