import CommitCharts.Json.Reader
import CommitCharts.Proofs.Decimal
import CommitCharts.Proofs.Text

/-!
# CommitCharts.Proofs.Json.Scalar — strings and numbers read back

Reading a text leaves a cursor behind it (`Cursor.behind`).  A quoted string is read back whatever characters it has
(`readString_quote`), and an integer whatever follows it, as long as that cannot be taken for more of the number
(`readInteger_integer`).
-/

namespace CommitCharts.Json

/-- The cursor behind the first part of a text, before its rest. -/
def Cursor.behind (text rest : List Char) : Cursor := ⟨text.foldl Place.advance {}, rest⟩

namespace Cursor

variable {a part rest : List Char} {c : Char}

@[simp] theorem rest_behind : (behind a rest).rest = rest := rfl

theorem behind_foldl {text : List Char} :
    ⟨part.foldl Place.advance (behind a text).place, rest⟩ = behind (a ++ part) rest := by
  unfold behind
  rw [List.foldl_append]

theorem drop_one : (behind a (c :: rest)).drop 1 = behind (a ++ [c]) rest := behind_foldl

/-- The text goes on here with something else than white space, or ends. -/
def Unblank (rest : List Char) : Prop := ∀ c ∈ rest.head?, isBlank c = false

theorem unblank_cons (h : isBlank c = false) (rest : List Char) : Unblank (c :: rest) := by
  rintro _ ⟨⟩
  exact h

theorem dropWhile_append {q : Char → Bool} (hpart : ∀ c ∈ part, q c = true) (hrest : ∀ c ∈ rest.head?, q c = false) :
    (behind a (part ++ rest)).dropWhile q = behind (a ++ part) rest := by
  unfold dropWhile
  rw [rest_behind, Text.takeWhile_append_of_stop hpart hrest, Text.dropWhile_append_of_stop hpart hrest]
  exact behind_foldl

theorem skipBlank_append (hpart : ∀ c ∈ part, isBlank c = true) (hrest : Unblank rest) :
    (behind a (part ++ rest)).skipBlank = behind (a ++ part) rest := dropWhile_append hpart hrest

theorem skipBlank_of_unblank (hrest : Unblank rest) : (behind a rest).skipBlank = behind a rest := by
  have hskip := skipBlank_append (a := a) (List.forall_mem_nil _) hrest
  rwa [List.append_nil] at hskip

end Cursor

open Cursor

/-! ### Strings -/

section Strings

variable {reversed rest : List Char} {p : Place} {a b c : Char} {x y : Nat}

theorem digit?_digitChar : ∀ n < 16, Text.digit? 16 (Nat.digitChar n) = some n := by decide

/-- Two hexadecimal digits behind two zeros are the code of a character. -/
theorem checkCode_ok (ha : Text.digit? 16 a = some x) (hb : Text.digit? 16 b = some y) :
    checkCode p ('0' :: '0' :: a :: b :: rest) = .ok () := by
  have hbytes : ¬ (String.ofList ['0', '0', a, b]).utf8ByteSize < 4 := by
    exact Nat.not_lt.2 (Text.length_le_utf8ByteSize ['0', '0', a, b])
  have hdigits : (['0', '0', a, b].all fun c => (Text.digit? 16 c).isSome) = true := by
    have hzero : Text.digit? 16 '0' = some 0 := rfl
    simp [ha, hb, hzero]
  unfold checkCode
  exact (if_neg hbytes).trans (if_pos hdigits)

theorem readChars_code (ha : Text.digit? 16 a = some x) (hb : Text.digit? 16 b = some y) (hlow : 16 * x + y < 0xD800) :
    readChars reversed .letter p ('u' :: '0' :: '0' :: a :: b :: rest) =
      readChars (Char.ofNat (16 * x + y) :: reversed) .nothing (['u', '0', '0', a, b].foldl Place.advance p) rest := by
  have hletter : escaped? 'u' = none := rfl
  have hzero : Text.digit? 16 '0' = some 0 := rfl
  have hdecode (q : Place) : decode none (16 * x + y) q = .ok (.inl (Char.ofNat (16 * x + y))) := by
    have hhigh : (decide (0xD800 ≤ 16 * x + y)) = false := decide_eq_false (Nat.not_le.2 hlow)
    have hlow' : (decide (0xDC00 ≤ 16 * x + y)) = false := decide_eq_false (by omega)
    simp [decode, hhigh, hlow']
  simp only [readChars, hletter, checkCode_ok ha hb, if_true, hzero, ha, hb, Option.getD_some, Nat.mul_zero,
    Nat.zero_add, Nat.add_zero, Nat.reduceLT, Nat.reduceSub, if_false, hdecode, List.foldl_cons, List.foldl_nil]

/-- A character between quotes is read back, however it is written. -/
theorem readChars_escape (c : Char) :
    readChars reversed .nothing p (escape c ++ rest) =
      readChars (c :: reversed) .nothing ((escape c).foldl Place.advance p) rest := by
  have hletter {l e : Char} (h : escaped? l = some e) :
      readChars reversed .nothing p (['\\', l] ++ rest) =
        readChars (e :: reversed) .nothing (['\\', l].foldl Place.advance p) rest := by
    simp [readChars, h]
  unfold escape
  split_ifs with hquote hslash hb hf hn hr ht hcontrol
  · subst hquote
    exact hletter rfl
  · subst hslash
    exact hletter rfl
  · exact hb ▸ hletter rfl
  · exact hf ▸ hletter rfl
  · exact hn ▸ hletter rfl
  · exact hr ▸ hletter rfl
  · exact ht ▸ hletter rfl
  · have hcode : readChars reversed .letter (p.advance '\\') ('u' :: '0' :: '0' :: _ :: _ :: rest) = _ :=
      readChars_code (digit?_digitChar (c.toNat / 16) (by omega))
        (digit?_digitChar (c.toNat % 16) (Nat.mod_lt _ (by decide))) (by omega)
    rw [Nat.div_add_mod, Char.ofNat_toNat] at hcode
    rw [List.foldl_cons, ← hcode]
    rfl
  · have hplain : isControl c = false := decide_eq_false hcontrol
    simp [readChars, hquote, hslash, hplain]

theorem readChars_flatMap_escape (cs : List Char) (reversed : List Char) (p : Place) :
    readChars reversed .nothing p (cs.flatMap escape ++ '"' :: rest) =
      .ok (reversed.reverse ++ cs, ⟨(cs.flatMap escape ++ ['"']).foldl Place.advance p, rest⟩) := by
  induction cs generalizing reversed p with
  | nil => simp [readChars]
  | cons c cs ih =>
    rw [List.flatMap_cons, List.append_assoc, readChars_escape, ih, ← List.foldl_append, List.reverse_cons,
      List.append_assoc, List.append_assoc, List.singleton_append]

/-- **A quoted string is read back**, from behind its opening quote up to behind the closing one. -/
theorem readString_quote (s : String) (a rest : List Char) :
    readString ((behind a (quote s ++ rest)).drop 1) = .ok (s, behind (a ++ quote s) rest) := by
  have hquote : quote s ++ rest = '"' :: (s.toList.flatMap escape ++ '"' :: rest) := by simp [quote]
  rw [hquote, drop_one, readString, rest_behind, readChars_flatMap_escape, behind_foldl, Except.map]
  simp [quote]

end Strings

/-! ### Integers -/

section Integers

variable {a rest : List Char} {n : Nat}

theorem appendWithin_of_fits (ds : List Char) (count : Nat) (h : Nat.ofDigitChars 10 ds n < UInt64.size) :
    appendWithin n count ds = (Nat.ofDigitChars 10 ds n, count + ds.length) := by
  induction ds generalizing n count with
  | nil => rfl
  | cons c ds ih =>
    have hstep : Nat.ofDigitChars 10 (c :: ds) n = Nat.ofDigitChars 10 ds (10 * n + Decimal.digitValue c) :=
      Nat.ofDigitChars_cons ..
    rw [hstep] at h ⊢
    have hfits : 10 * n + Decimal.digitValue c < UInt64.size := Nat.lt_of_le_of_lt (Decimal.le_ofDigitChars _ _) h
    rw [appendWithin, if_pos hfits, ih _ h, List.length_cons, Nat.add_assoc, Nat.add_comm 1]

/-- What follows cannot be taken for more of a number. -/
def EndsNumber (rest : List Char) : Prop :=
  ∀ c ∈ rest.head?, Decimal.isDigit c = false ∧ c ≠ '.' ∧ c ≠ 'e' ∧ c ≠ 'E'

/-- The integers of 64 bits, with or without a sign. -/
def Fits (n : Int) : Prop := -2 ^ 63 ≤ n ∧ n < 2 ^ 64

theorem readNumber_toDigits (negative : Bool) (hfits : n < UInt64.size) (hrest : EndsNumber rest)
    (hnegative : negative = true → n ≠ 0 ∧ n ≤ 2 ^ 63) :
    readNumber negative (behind a (Nat.toDigits 10 n ++ rest)) =
      .ok (.integer (if negative then -(n : Int) else n), behind (a ++ Nat.toDigits 10 n) rest) := by
  obtain ⟨c, cs, hds⟩ := List.exists_cons_of_ne_nil (Nat.toDigits_ne_nil (b := 10) (n := n))
  have hdigits : ∀ d ∈ Nat.toDigits 10 n, Decimal.isDigit d = true := fun _ => Decimal.isDigit_of_mem_toDigits
  have hstop : ∀ d ∈ rest.head?, Decimal.isDigit d = false := fun d hd => (hrest d hd).1
  have hvalue : Nat.ofDigitChars 10 (Nat.toDigits 10 n) 0 = n := Nat.ofDigitChars_ten_toDigits
  have hwithin : appendWithin 0 0 (Nat.toDigits 10 n) = (n, (Nat.toDigits 10 n).length) := by
    rw [appendWithin_of_fits _ _ (hvalue.symm ▸ hfits), hvalue, Nat.zero_add]
  -- a zero in front is the only digit
  have hzero : ¬ (c = '0' ∧ (cs ++ rest).head?.any Decimal.isDigit) := by
    rintro ⟨rfl, hmore⟩
    have hn : n = 0 := by
      by_contra hn
      exact Decimal.head?_toDigits hn (by rw [hds, List.head?_cons])
    subst hn
    obtain rfl : [] = cs := (List.cons.inj hds).2
    obtain ⟨d, hd, hdigit⟩ := (Option.any_eq_true ..).1 hmore
    exact Bool.false_ne_true ((hstop d hd).symm.trans hdigit)
  have hafter := dropWhile_append (a := a) hdigits hstop
  have htake := Text.takeWhile_append_of_stop hdigits hstop
  unfold readNumber
  rw [hds, List.cons_append] at hafter htake ⊢
  dsimp only [rest_behind]
  rw [if_neg (by simp [hdigits c (hds ▸ List.mem_cons_self)]), if_neg hzero, hafter, htake, ← hds, hwithin]
  dsimp only [rest_behind]
  have hexact : ¬ ((Nat.toDigits 10 n).length : Int) - (Nat.toDigits 10 n).length ≠ 0 := by simp
  -- neither a fraction nor an exponent follows
  split
  · exact absurd rfl (hrest _ rfl).2.1
  · exact absurd rfl (hrest _ rfl).2.2.1
  · exact absurd rfl (hrest _ rfl).2.2.2
  · rw [if_neg hexact]
    cases negative with
    | false => rfl
    | true =>
      obtain ⟨hpos, hle⟩ := hnegative rfl
      have hkept : ¬ (n = 0 ∨ Nat.pow 2 63 < n) := not_or.2 ⟨hpos, Nat.not_lt.2 hle⟩
      rw [if_neg (by simp), if_neg hkept]
      rfl

/-- **An integer is read back**, whatever follows that is no more of it. -/
theorem readInteger_integer {z : Int} (hfits : Fits z) (hrest : EndsNumber rest) :
    readInteger (behind a (integer z ++ rest)) = .ok (z, behind (a ++ integer z) rest) := by
  obtain ⟨hlow, hhigh⟩ := hfits
  cases z with
  | ofNat n =>
    have hsize : n < UInt64.size := by
      rw [Int.ofNat_eq_natCast] at hhigh
      unfold UInt64.size
      omega
    have hread := readNumber_toDigits (a := a) false hsize hrest (by simp)
    have hdigits : ∀ c ∈ Nat.toDigits 10 n, Decimal.isDigit c = true := fun _ => Decimal.isDigit_of_mem_toDigits
    obtain ⟨c, cs, hds⟩ := List.exists_cons_of_ne_nil (Nat.toDigits_ne_nil (b := 10) (n := n))
    have hsign : c ≠ '-' := fun hc => absurd (hdigits c (hds ▸ List.mem_cons_self)) (hc ▸ by decide)
    have hplus : (((Nat.toDigits 10 n ++ rest).head? == some '-')) = false := by
      rw [hds, List.cons_append, List.head?_cons]
      exact beq_eq_false_iff_ne.2 fun h => hsign (Option.some.inj h)
    show readInteger (behind a (Nat.toDigits 10 n ++ rest)) = .ok (Int.ofNat n, behind (a ++ Nat.toDigits 10 n) rest)
    unfold readInteger
    dsimp only [rest_behind]
    rw [hplus, if_neg Bool.false_ne_true, hread]
    rfl
  | negSucc n =>
    have hsize : n + 1 < UInt64.size ∧ n + 1 ≤ 2 ^ 63 := by
      unfold UInt64.size
      omega
    have hread := readNumber_toDigits (a := a ++ ['-']) true hsize.1 hrest
      fun _ => ⟨Nat.succ_ne_zero n, hsize.2⟩
    show readInteger (behind a ('-' :: (Nat.toDigits 10 (n + 1) ++ rest))) =
      .ok (Int.negSucc n, behind (a ++ '-' :: Nat.toDigits 10 (n + 1)) rest)
    unfold readInteger
    have hminus : (('-' :: (Nat.toDigits 10 (n + 1) ++ rest)).head? == some '-') = true := rfl
    dsimp only [rest_behind]
    rw [hminus, if_pos rfl, drop_one, hread, List.append_assoc, List.singleton_append]
    rfl

end Integers

end CommitCharts.Json
