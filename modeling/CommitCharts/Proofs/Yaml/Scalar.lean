import CommitCharts.Proofs.Decimal
import CommitCharts.Proofs.Text
import CommitCharts.Yaml.Meaning
import CommitCharts.Yaml.Scalar.Plain
import CommitCharts.Yaml.Scalar.Quoted

/-!
# CommitCharts.Proofs.Yaml.Scalar — words, quoted texts and numbers

A word of characters that are no indicators is scanned as it stands, up to the first character that ends it
(`Plain.scan_word`), and so is a quoted text of printable characters without quotes and backslashes
(`Quoted.scan_printable`).  A word of digits is read as their number (`Scalar.natural?_toString`).
-/

namespace CommitCharts.Yaml

/-! ### Marks -/

/-- How many bytes a text takes. -/
def byteSize (text : List Char) : Nat := (text.map Char.utf8Size).sum

/-- Within a line a mark moves on by the bytes and the characters. -/
theorem Mark.foldl_advance {text : List Char} (h : ∀ c ∈ text, isBreak c = false) (m : Mark) :
    text.foldl Mark.advance m = ⟨m.index + byteSize text, m.line, m.column + text.length⟩ := by
  induction text generalizing m with
  | nil => rfl
  | cons c text ih =>
    obtain ⟨hc, htext⟩ := List.forall_mem_cons.1 h
    rw [List.foldl_cons, ih htext, Mark.advance, hc]
    simp [byteSize, Nat.add_assoc, Nat.add_comm 1]

/-! ### Plain scalars -/

/-- Characters that may end a plain scalar or begin something else, and the byte order mark. -/
def indicators : List Char :=
  ['-', '.', '?', ':', ',', '[', ']', '{', '}', '#', '&', '*', '!', '|', '>', '\'', '"', '%', '@', '\x60', '\ufeff']

/-- The character can stand anywhere in a plain scalar. -/
def isPlainChar (c : Char) : Bool := !isGap c && !indicators.contains c

theorem isPlainChar_iff {c : Char} : isPlainChar c = true ↔ isGap c = false ∧ c ∉ indicators := by
  simp [isPlainChar]

theorem isBreak_of_isGap {c : Char} (h : isGap c = false) : isBreak c = false := (Bool.or_eq_false_iff.1 h).2

/-- A digit is such a character. -/
theorem isPlainChar_of_isDigit {c : Char} (h : Decimal.isDigit c = true) : isPlainChar c = true := by
  obtain ⟨hlow, hhigh⟩ := Decimal.toNat_of_isDigit h
  exact Text.of_toNat_lt (p := fun c => 48 ≤ c.toNat → isPlainChar c = true) (by decide) hhigh hlow

namespace Plain

variable {flow : Bool} {floor : Nat} {reversed word rest : List Char} {m : Mark} {c : Char}

/-- A word is taken whole, whatever follows it. -/
theorem scan_word (hword : ∀ c ∈ word, isPlainChar c = true) (reversed : List Char) (m : Mark) (rest : List Char) :
    scan flow floor ⟨reversed, .empty⟩ m (word ++ rest) =
      scan flow floor ⟨word.reverse ++ reversed, .empty⟩ (word.foldl Mark.advance m) rest := by
  induction word generalizing reversed m with
  | nil => rfl
  | cons c word ih =>
    obtain ⟨hc, hword⟩ := List.forall_mem_cons.1 hword
    obtain ⟨hgap, hother⟩ := isPlainChar_iff.1 hc
    simp only [indicators, List.mem_cons, List.not_mem_nil, or_false, not_or] at hother
    have hcolon : (c == ':') = false := beq_eq_false_iff_ne.2 hother.2.2.2.1
    have hflow : isFlowIndicator c = false := by simp [isFlowIndicator, hother]
    have hends : endsAt flow c (word ++ rest) = false := by simp [endsAt, hcolon, hflow]
    have hplaced : isMisplaced flow c (word ++ rest) = false := by simp [isMisplaced, hcolon]
    have hpush : Draft.push ⟨reversed, .empty⟩ c = ⟨c :: reversed, .empty⟩ := rfl
    have hempty : Gap.isEmpty .empty = true := rfl
    rw [List.cons_append, scan, hgap, hempty, hends, hplaced, hpush]
    simp [ih hword]

/-- A colon before a blank ends a scalar. -/
theorem scan_colon (reversed : List Char) (m : Mark) (rest : List Char) :
    scan flow floor ⟨reversed, .empty⟩ m (':' :: ' ' :: rest) =
      some (⟨reversed, .empty⟩, ⟨m, ':' :: ' ' :: rest⟩) := by
  rw [scan]
  rfl

/-- Between brackets a comma and a closing bracket end a scalar. -/
theorem scan_flowIndicator (hgap : isGap c = false) (hc : isFlowIndicator c = true) (reversed : List Char) (m : Mark)
    (rest : List Char) :
    scan true floor ⟨reversed, .empty⟩ m (c :: rest) = some (⟨reversed, .empty⟩, ⟨m, c :: rest⟩) := by
  have hends : endsAt true c rest = true := by simp [endsAt, hc]
  rw [scan, hgap, hends]
  simp

/-- A line that is not indented ends a scalar of an open block collection, and so does the end of the text. -/
theorem scan_newline (hfloor : 0 < floor) (hrest : ∀ c ∈ rest.head?, isGap c = false) (reversed : List Char)
    (m : Mark) :
    scan false floor ⟨reversed, .empty⟩ m ('\n' :: rest) =
      some (⟨reversed, .lines (some '\n') []⟩, ⟨m.advance '\n', rest⟩) := by
  have hpush : Draft.pushGap ⟨reversed, .empty⟩ '\n' = ⟨reversed, .lines (some '\n') []⟩ := rfl
  have hfirst : scan false floor ⟨reversed, .empty⟩ m ('\n' :: rest) =
      scan false floor ⟨reversed, .lines (some '\n') []⟩ (m.advance '\n') rest := by
    rw [scan, hpush]
    rfl
  rw [hfirst]
  cases rest with
  | nil => rfl
  | cons c rest =>
    have hends : endsAtWord false floor (m.advance '\n') (c :: rest) = true := by
      have hcolumn : (m.advance '\n').column < floor := hfloor
      simp [endsAtWord, hcolumn]
    rw [scan, hrest c rfl, hends]
    rfl

end Plain

/-! ### Quoted scalars -/

/-- A visible character or a blank, but neither a quote nor a backslash. -/
def IsPrintable (c : Char) : Prop := ' ' ≤ c ∧ c ≤ '~' ∧ c ≠ '"' ∧ c ≠ '\\'

/-- Of these characters only the blank is white space. -/
theorem isGap_of_isPrintable {c : Char} (h : IsPrintable c) (hblank : c ≠ ' ') : isGap c = false :=
  Text.of_toNat_lt (p := fun c => 32 ≤ c.toNat → c ≠ ' ' → isGap c = false) (by decide) (Nat.lt_succ_of_le h.2.1) h.1
    hblank

theorem isBreak_of_isPrintable {c : Char} (h : IsPrintable c) : isBreak c = false := by
  by_cases hblank : c = ' '
  · rw [hblank]
    rfl
  · exact isBreak_of_isGap (isGap_of_isPrintable h hblank)

/-- A quoted text is taken as it stands, up to its closing quote. -/
theorem Quoted.scan_printable {text : List Char} (htext : ∀ c ∈ text, IsPrintable c) (reversed blanks : List Char)
    {m : Mark} (hcolumn : 0 < m.column) (rest : List Char) :
    scan true ⟨reversed, .blanks blanks⟩ .nothing m (text ++ '"' :: rest) =
      some (reversed.reverse ++ blanks ++ text, ⟨(text ++ ['"']).foldl Mark.advance m, rest⟩) := by
  induction text generalizing reversed blanks m with
  | nil =>
    have hgap : isGap '"' = false := rfl
    have hmark : ¬ (m.column = 0 ∧ isDocumentMark ('"' :: rest)) := fun h => Nat.ne_of_gt hcolumn h.1
    rw [List.nil_append, scan]
    simp [hgap, hmark, Draft.chars, Draft.join, Gap.text]
  | cons c text ih =>
    obtain ⟨hc, hothers⟩ := List.forall_mem_cons.1 htext
    have hadvance : 0 < (m.advance c).column := by
      rw [Mark.advance, isBreak_of_isPrintable hc]
      exact Nat.succ_pos _
    by_cases hblank : c = ' '
    · subst hblank
      have hgap : isGap ' ' = true := rfl
      have hpush : Draft.pushGap ⟨reversed, .blanks blanks⟩ ' ' = ⟨reversed, .blanks (blanks ++ [' '])⟩ := rfl
      rw [List.cons_append, scan]
      simp [hgap, hpush, ih hothers reversed _ hadvance]
    · have hgap := isGap_of_isPrintable hc hblank
      have hmark : ¬ (m.column = 0 ∧ isDocumentMark (c :: (text ++ '"' :: rest))) := fun h => Nat.ne_of_gt hcolumn h.1
      have hpush : Draft.push ⟨reversed, .blanks blanks⟩ c = ⟨c :: (blanks.reverse ++ reversed), .blanks []⟩ := rfl
      rw [List.cons_append, scan]
      simp [hgap, hmark, hc.2.2.1, hc.2.2.2, hpush, ih hothers _ _ hadvance]

/-! ### Numbers -/

section Numbers

variable {n : Nat}

theorem head?_toDigits_ne {c : Char} (hc : Decimal.isDigit c = false) : (Nat.toDigits 10 n).head? ≠ some c := by
  intro hhead
  have hdigit := Decimal.isDigit_of_mem_toDigits (List.mem_of_mem_head? hhead)
  exact Bool.false_ne_true (hc.symm.trans hdigit)

theorem Meaning.magnitude?_toDigits (n : Nat) : magnitude? (Nat.toDigits 10 n) = some n := by
  by_cases hzero : n = 0
  · subst hzero
    rfl
  · have hhead := Decimal.head?_toDigits hzero
    have hminus : (Nat.toDigits 10 n).head? ≠ some '-' := head?_toDigits_ne rfl
    have hplus : (Nat.toDigits 10 n).head? ≠ some '+' := head?_toDigits_ne rfl
    have hpadded : isPadded (Nat.toDigits 10 n) = false := by simp [isPadded, hhead, hminus, hplus]
    unfold magnitude?
    split
    · rename_i hdigits
      exact absurd (congrArg List.head? hdigits) hhead
    · rename_i hdigits
      exact absurd (congrArg List.head? hdigits) hhead
    · rename_i hdigits
      exact absurd (congrArg List.head? hdigits) hhead
    · rw [hpadded, if_neg Bool.false_ne_true, Text.number?_toDigits]

theorem Meaning.unsigned?_toDigits (n : Nat) : unsigned? (Nat.toDigits 10 n) = some n := by
  unfold unsigned?
  split
  · rename_i hdigits
    exact absurd (congrArg List.head? hdigits) (head?_toDigits_ne rfl)
  · exact magnitude?_toDigits n

/-- A plain scalar of digits is the number. -/
theorem Scalar.natural?_toString (h : n < UInt64.size) : natural? ⟨toString n, none, .plain⟩ = some n := by
  have hchars : (toString n).toList = Nat.toDigits 10 n := Nat.toList_repr
  have hnumeric : isNumeric ⟨toString n, none, .plain⟩ = true := rfl
  rw [natural?, hnumeric, if_pos rfl, hchars, Meaning.unsigned?_toDigits, Option.filter_some, decide_eq_true h,
    if_pos rfl]

end Numbers

end CommitCharts.Yaml
