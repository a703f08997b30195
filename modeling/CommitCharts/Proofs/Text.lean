import CommitCharts.Catalog
import Mathlib.Data.List.TakeWhile
import Mathlib.Tactic.SplitIfs

/-!
# CommitCharts.Proofs.Text — slashes in words, numbers in decimal

Lower case neither makes a slash nor takes one away (`slash_mem_fileWord_iff`), and a number in decimal before a sign
that is no digit can be read back (`repr_append_inj`).
-/

namespace CommitCharts

namespace Text

/-! ### Codes -/

/-- What holds of all codes below a bound holds of their characters. -/
theorem of_toNat_lt {p : Char → Prop} {bound : Nat} (h : ∀ n < bound, p (Char.ofNat n)) {c : Char}
    (hc : c.toNat < bound) : p c := by
  have hcode := h c.toNat hc
  rwa [Char.ofNat_toNat] at hcode

/-! ### Slashes and lower case -/

/-- Letters that have a lower-case form, and these forms, come after the slash. -/
theorem lowerRuns_after_slash : ∀ r ∈ lowerRuns, '/'.toNat < r.first ∧ ('/'.toNat : Int) < r.first + r.shift := by
  decide +kernel

theorem toNat_ofNat (n : Nat) : (Char.ofNat n).toNat = n ∨ (Char.ofNat n).toNat = 0 := by
  by_cases hvalid : n.isValidChar
  · exact .inl (by rw [Char.ofNat, dif_pos hvalid]; rfl)
  · exact .inr (by rw [Char.ofNat, dif_neg hvalid]; rfl)

theorem lowerChar_eq_slash_iff {c : Char} : lowerChar c = '/' ↔ c = '/' := by
  unfold lowerChar
  cases hrun : lowerRuns.find? (·.covers c.toNat) with
  | none => rfl
  | some r =>
    obtain ⟨hafter, hshifted⟩ := lowerRuns_after_slash r (List.mem_of_find?_eq_some hrun)
    have hcovers := List.find?_some hrun
    simp only [CaseRun.covers, Bool.and_eq_true, decide_eq_true_eq] at hcovers
    -- neither the letter nor its lower-case form is the slash
    refine iff_of_false (fun hslash => ?_) ?_
    · dsimp only at hslash
      rcases toNat_ofNat (c.toNat + r.shift).toNat with hlower | hlower
      · rw [hslash] at hlower
        omega
      · rw [hslash] at hlower
        cases hlower
    · rintro rfl
      omega

theorem slash_mem_lowerAt_iff {before after : List Char} {c : Char} : '/' ∈ lowerAt before c after ↔ c = '/' := by
  unfold lowerAt
  split_ifs with hsigma hends hdotted
  · simp [hsigma]
  · simp [hsigma]
  · simp [hdotted]
  · rw [List.mem_singleton, eq_comm, lowerChar_eq_slash_iff]

theorem slash_mem_lowerFrom_iff {before cs : List Char} : '/' ∈ lowerFrom before cs ↔ '/' ∈ cs := by
  induction cs generalizing before with
  | nil => rfl
  | cons c cs ih => rw [lowerFrom, List.mem_append, slash_mem_lowerAt_iff, ih, List.mem_cons, eq_comm]

/-! ### Sizes -/

/-- A character has at least one byte. -/
theorem length_le_utf8ByteSize (cs : List Char) : cs.length ≤ (String.ofList cs).utf8ByteSize := by
  induction cs with
  | nil => exact Nat.zero_le _
  | cons c cs ih =>
    have hsize : (String.ofList (c :: cs)).utf8ByteSize = c.utf8Size + (String.ofList cs).utf8ByteSize := by
      rw [← List.singleton_append, String.ofList_append, String.utf8ByteSize_append]
      simp
    have hpos := c.utf8Size_pos
    rw [hsize, List.length_cons]
    omega

/-! ### Where a part ends -/

section Parts

variable {q : Char → Bool} {part rest : List Char}

theorem takeWhile_append_of_stop (hpart : ∀ c ∈ part, q c = true) (hrest : ∀ c ∈ rest.head?, q c = false) :
    (part ++ rest).takeWhile q = part := by
  rw [List.takeWhile_append_of_pos hpart]
  cases rest with
  | nil => exact List.append_nil part
  | cons c rest => rw [List.takeWhile_cons_of_neg (Bool.eq_false_iff.1 (hrest c rfl)), List.append_nil]

theorem dropWhile_append_of_stop (hpart : ∀ c ∈ part, q c = true) (hrest : ∀ c ∈ rest.head?, q c = false) :
    (part ++ rest).dropWhile q = rest := by
  rw [List.dropWhile_append_of_pos hpart]
  cases rest with
  | nil => rfl
  | cons c rest => exact List.dropWhile_cons_of_neg (Bool.eq_false_iff.1 (hrest c rfl))

end Parts

/-! ### Numbers in decimal -/

theorem notMem_repr {c : Char} (h : c.isDigit = false) (n : Nat) : c ∉ n.repr.toList := by
  intro hc
  rw [Nat.toList_repr] at hc
  exact Bool.false_ne_true (h.symm.trans (Nat.isDigit_of_mem_toDigits (by decide) (by decide) hc))

theorem toList_repr_inj {m n : Nat} (h : m.repr.toList = n.repr.toList) : m = n := by
  rw [Nat.toList_repr, Nat.toList_repr] at h
  rw [← @Nat.ofDigitChars_ten_toDigits m, h, Nat.ofDigitChars_ten_toDigits]

/-- What stands before the first `c`. -/
theorem takeWhile_append_cons {c : Char} {before : List Char} (after : List Char) (h : c ∉ before) :
    (before ++ c :: after).takeWhile (· != c) = before := by
  rw [List.takeWhile_append_of_pos fun a ha => bne_iff_ne.mpr (ne_of_mem_of_not_mem ha h),
    List.takeWhile_cons_of_neg (by simp), List.append_nil]

/-- **A number** is read back from the text that starts with it if a sign follows that is no digit. -/
theorem repr_append_inj {c : Char} (hc : c.isDigit = false) {m n : Nat} {v w : List Char} :
    m.repr.toList ++ c :: v = n.repr.toList ++ c :: w ↔ m = n ∧ v = w := by
  constructor
  · intro h
    have hstart := congrArg (List.takeWhile (· != c)) h
    rw [takeWhile_append_cons v (notMem_repr hc m), takeWhile_append_cons w (notMem_repr hc n)] at hstart
    rw [hstart] at h
    exact ⟨toList_repr_inj hstart, (List.cons.inj (List.append_cancel_left h)).2⟩
  · rintro ⟨rfl, rfl⟩
    rfl

end Text

namespace Test

/-- The word in the file names of a test has a slash exactly if the first word of its short name has one. -/
theorem slash_mem_fileWord_iff {t : Test} :
    '/' ∈ t.fileWord.toList ↔ '/' ∈ (Text.firstWord t.shortName).toList := by
  unfold fileWord Text.lowerCase
  rw [String.toList_ofList, Text.slash_mem_lowerFrom_iff]

end Test

end CommitCharts
