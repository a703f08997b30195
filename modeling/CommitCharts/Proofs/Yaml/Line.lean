import CommitCharts.Proofs.Yaml.Scalar
import CommitCharts.Yaml.Token.Scan

/-!
# CommitCharts.Proofs.Yaml.Line — texts of lines

A text of lines `key: value`, where a value is a number, a quoted text or a pair of numbers in brackets: its characters
(`Line.toList_join`) and the tokens that each line should have.
-/

namespace CommitCharts.Yaml

/-- What stands behind the colon of a line. -/
inductive Entry where
  | number (n : Nat)
  | quoted (s : String)
  | pair (m n : Nat)
  deriving DecidableEq, Repr

structure Line where
  key : String
  entry : Entry
  deriving DecidableEq, Repr

def Entry.text : Entry → String
  | .number n => toString n
  | .quoted s => "\"" ++ s ++ "\""
  | .pair m n => "[" ++ toString m ++ ", " ++ toString n ++ "]"

def Line.text (l : Line) : String := l.key ++ ": " ++ l.entry.text

/-- The lines of a text, with or without a line end behind the last one. -/
def Line.join (ended : Bool) (ls : List Line) : String :=
  "\n".intercalate (ls.map Line.text) ++ if ended then "\n" else ""

/-! ### Characters -/

def Entry.chars : Entry → List Char
  | .number n => Nat.toDigits 10 n
  | .quoted s => '"' :: (s.toList ++ ['"'])
  | .pair m n => '[' :: (Nat.toDigits 10 m ++ ',' :: ' ' :: (Nat.toDigits 10 n ++ [']']))

def Line.chars (l : Line) : List Char := l.key.toList ++ ':' :: ' ' :: l.entry.chars

/-- What follows a line: the other lines, each behind a line end. -/
def Line.charsBehind (ended : Bool) : List Line → List Char
  | [] => if ended then ['\n'] else []
  | l :: ls => '\n' :: (l.chars ++ charsBehind ended ls)

/-- The characters of lines, but for a line end where there is no line. -/
def Line.charsOf (ended : Bool) : List Line → List Char
  | [] => []
  | l :: ls => l.chars ++ charsBehind ended ls

theorem Entry.toList_text (e : Entry) : e.text.toList = e.chars := by
  cases e <;> simp [text, chars, Nat.toList_repr]

theorem Line.toList_text (l : Line) : l.text.toList = l.chars := by
  simp [text, chars, Entry.toList_text]

theorem Line.intercalate_chars (ended : Bool) (l : Line) (ls : List Line) :
    ['\n'].intercalate ((l :: ls).map Line.chars) ++ (if ended then ['\n'] else []) = charsOf ended (l :: ls) := by
  induction ls generalizing l with
  | nil => simp [charsOf, charsBehind, List.intercalate]
  | cons next ls ih =>
    have hnext := ih next
    simp only [List.map_cons, charsOf, charsBehind] at hnext ⊢
    rw [List.intercalate_cons_cons, List.append_assoc, List.append_assoc, hnext]
    rfl

theorem Line.toList_join (ended : Bool) (l : Line) (ls : List Line) :
    (Line.join ended (l :: ls)).toList = charsOf ended (l :: ls) := by
  have hchars : String.toList ∘ Line.text = Line.chars := funext Line.toList_text
  have hend : (if ended then "\n" else "").toList = if ended then ['\n'] else [] := by
    cases ended <;> rfl
  rw [← Line.intercalate_chars, join, String.toList_append, String.toList_intercalate, List.map_map, hchars, hend]
  rfl

/-! ### Tokens -/

def Entry.tokens : Entry → List Token
  | .number n => [.scalar (toString n) .plain]
  | .quoted s => [.scalar s .doubleQuoted]
  | .pair m n =>
    [.flowSequenceStart, .scalar (toString m) .plain, .flowEntry, .scalar (toString n) .plain, .flowSequenceEnd]

def Line.tokens (l : Line) : List Token := .key :: .scalar l.key .plain :: .value :: l.entry.tokens

/-- Quoted texts are printable without escapes, and numbers between brackets are no longer than keys may be. -/
def Entry.IsReadable : Entry → Prop
  | .number _ => True
  | .quoted s => ∀ c ∈ s.toList, IsPrintable c
  | .pair m n => m < UInt32.size ∧ n < UInt32.size

/-- A text may hold the character, and it stays as it is. -/
def isTextChar (c : Char) : Bool := isAllowed c && c != '\r' && c != '\u0085'

/-- A word stands where the key is, and a value behind it. -/
structure Line.IsWritten (l : Line) : Prop where
  nonempty : l.key.toList ≠ []
  word : ∀ c ∈ l.key.toList, isPlainChar c = true
  text : ∀ c ∈ l.key.toList, isTextChar c = true
  entry : l.entry.IsReadable

/-- The word is no longer than a key may be. -/
structure Line.IsReadable (l : Line) : Prop extends l.IsWritten where
  short : byteSize l.key.toList ≤ 1024

section Digits

variable {n : Nat}

theorem isPlainChar_of_mem_toDigits : ∀ c ∈ Nat.toDigits 10 n, isPlainChar c = true :=
  fun _ hc => isPlainChar_of_isDigit (Decimal.isDigit_of_mem_toDigits hc)

theorem ofList_toDigits (n : Nat) : String.ofList (Nat.toDigits 10 n) = toString n := by
  rw [← String.toList_inj, String.toList_ofList]
  exact (Nat.toList_repr).symm

theorem byteSize_le (text : List Char) : byteSize text ≤ 4 * text.length := by
  induction text with
  | nil => exact Nat.le_refl 0
  | cons c text ih =>
    have hc := c.utf8Size_le_four
    simp only [byteSize, List.map_cons, List.sum_cons, List.length_cons] at ih ⊢
    omega

/-- A number of 32 bits has few digits. -/
theorem byteSize_toDigits_le (h : n < UInt32.size) : byteSize (Nat.toDigits 10 n) ≤ 1024 := by
  have hlength : (Nat.toDigits 10 n).length ≤ 10 :=
    Nat.toDigits_length 10 n 10 (by decide) (Nat.lt_trans h (by decide))
  have hbytes := byteSize_le (Nat.toDigits 10 n)
  omega

end Digits

/-! ### Characters that a text may hold -/

section TextChars

variable {c : Char}

theorem isTextChar_of_toNat (hlow : 32 ≤ c.toNat) (hhigh : c.toNat < 127) : isTextChar c = true :=
  Text.of_toNat_lt (p := fun c => 32 ≤ c.toNat → isTextChar c = true) (by decide) hhigh hlow

theorem isTextChar_of_isDigit (h : Decimal.isDigit c = true) : isTextChar c = true := by
  have hcode := Decimal.toNat_of_isDigit h
  exact isTextChar_of_toNat (by omega) (by omega)

theorem isTextChar_of_isPrintable (h : IsPrintable c) : isTextChar c = true :=
  isTextChar_of_toNat h.1 (Nat.lt_succ_of_le h.2.1)

theorem Entry.isTextChar_of_mem {e : Entry} (he : e.IsReadable) : ∀ c ∈ e.chars, isTextChar c = true := by
  have hdigits (n : Nat) : ∀ c ∈ Nat.toDigits 10 n, isTextChar c = true :=
    fun _ hc => isTextChar_of_isDigit (Decimal.isDigit_of_mem_toDigits hc)
  intro c hc
  cases e with
  | number n => exact hdigits n c hc
  | quoted s =>
    simp only [chars, List.mem_cons, List.mem_append, List.not_mem_nil, or_false] at hc
    rcases hc with rfl | hc | rfl
    · rfl
    · exact isTextChar_of_isPrintable (he c hc)
    · rfl
  | pair m n =>
    simp only [chars, List.mem_cons, List.mem_append, List.not_mem_nil, or_false] at hc
    rcases hc with rfl | hc | rfl | rfl | hc | rfl
    · rfl
    · exact hdigits m c hc
    · rfl
    · rfl
    · exact hdigits n c hc
    · rfl

theorem Line.isTextChar_of_mem {l : Line} (hl : l.IsWritten) : ∀ c ∈ l.chars, isTextChar c = true := by
  intro c hc
  simp only [chars, List.mem_cons, List.mem_append] at hc
  rcases hc with hc | rfl | rfl | hc
  · exact hl.text c hc
  · rfl
  · rfl
  · exact Entry.isTextChar_of_mem hl.entry c hc

theorem Line.isTextChar_of_mem_charsBehind (ended : Bool) {ls : List Line} (hls : ∀ l ∈ ls, l.IsWritten) :
    ∀ c ∈ charsBehind ended ls, isTextChar c = true := by
  induction ls with
  | nil => cases ended <;> exact List.all_eq_true.1 rfl
  | cons l ls ih =>
    obtain ⟨hl, hls⟩ := List.forall_mem_cons.1 hls
    intro c hc
    simp only [charsBehind, List.mem_cons, List.mem_append] at hc
    rcases hc with rfl | hc | hc
    · rfl
    · exact isTextChar_of_mem hl c hc
    · exact ih hls c hc

theorem Line.isTextChar_of_mem_join (ended : Bool) {ls : List Line} (hls : ∀ l ∈ ls, l.IsWritten) :
    ∀ c ∈ (Line.join ended ls).toList, isTextChar c = true := by
  cases ls with
  | nil => cases ended <;> exact List.all_eq_true.1 rfl
  | cons l ls =>
    rw [toList_join, charsOf, List.forall_mem_append]
    obtain ⟨hl, hls⟩ := List.forall_mem_cons.1 hls
    exact ⟨isTextChar_of_mem hl, isTextChar_of_mem_charsBehind ended hls⟩

end TextChars

end CommitCharts.Yaml
