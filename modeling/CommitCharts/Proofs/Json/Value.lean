import CommitCharts.Proofs.Json.Scalar

/-!
# CommitCharts.Proofs.Json.Value — values read back

In either layout a value is read back if its numbers fit 64 bits (`ofText_write`).  By induction on the
value: the white space of a layout stands where the reader skips it, and what follows an item ends a number.
-/

namespace CommitCharts.Json

open Cursor

/-! ### Layouts -/

section Layouts

variable (l : Layout)

theorem isBlank_of_mem_line (depth : Nat) : ∀ c ∈ l.line depth, isBlank c = true := by
  intro c hc
  cases l with
  | compact => exact absurd hc List.not_mem_nil
  | indented =>
    obtain rfl | hc := List.mem_cons.1 hc
    · rfl
    · rw [List.eq_of_mem_replicate hc]
      rfl

/-- The white space between a colon and the value behind it. -/
def Layout.gap : Layout → List Char
  | .compact => []
  | .indented => [' ']

theorem colon_eq : l.colon = ':' :: l.gap := by
  cases l <;> rfl

theorem isBlank_of_mem_gap : ∀ c ∈ l.gap, isBlank c = true := by
  cases l <;> exact List.all_eq_true.1 rfl

end Layouts

/-! ### From item to item -/

/-- The text starts with an item of a list. -/
def StartsItem (text : List Char) : Prop := ∃ c cs, text = c :: cs ∧ isBlank c = false ∧ c ≠ ']'

section Steps

variable {a ws text rest : List Char}

theorem nextItem_first (hws : ∀ c ∈ ws, isBlank c = true) (htext : StartsItem text) :
    nextItem true (behind a (ws ++ text)) = .ok (true, behind (a ++ ws) text) := by
  obtain ⟨c, cs, rfl, hblank, hend⟩ := htext
  unfold nextItem
  rw [skipBlank_append hws (unblank_cons hblank cs)]
  simp

theorem nextItem_comma (hws : ∀ c ∈ ws, isBlank c = true) (htext : StartsItem text) :
    nextItem false (behind a (',' :: (ws ++ text))) = .ok (true, behind (a ++ ',' :: ws) text) := by
  obtain ⟨c, cs, rfl, hblank, hend⟩ := htext
  unfold nextItem
  dsimp only
  rw [skipBlank_of_unblank (unblank_cons rfl _)]
  dsimp only [rest_behind]
  rw [drop_one, skipBlank_append hws (unblank_cons hblank cs)]
  simp [hend]

theorem nextItem_end (first : Bool) (hws : ∀ c ∈ ws, isBlank c = true) :
    nextItem first (behind a (ws ++ ']' :: rest)) = .ok (false, behind (a ++ ws) (']' :: rest)) := by
  unfold nextItem
  rw [skipBlank_append hws (unblank_cons rfl _)]
  rfl

theorem unblank_quote (s : String) (rest : List Char) : Unblank (quote s ++ rest) := unblank_cons rfl _

theorem nextKey_first (s : String) (hws : ∀ c ∈ ws, isBlank c = true) (rest : List Char) :
    nextKey true (behind a (ws ++ (quote s ++ rest))) = .ok (some s, behind (a ++ (ws ++ quote s)) rest) := by
  have hkey := readString_quote s (a ++ ws) rest
  unfold nextKey
  dsimp only
  rw [skipBlank_append hws (unblank_quote s rest), hkey, List.append_assoc]
  rfl

theorem nextKey_comma (s : String) (hws : ∀ c ∈ ws, isBlank c = true) (rest : List Char) :
    nextKey false (behind a (',' :: (ws ++ (quote s ++ rest)))) =
      .ok (some s, behind (a ++ (',' :: ws ++ quote s)) rest) := by
  have hkey := readString_quote s (a ++ [','] ++ ws) rest
  unfold nextKey
  dsimp only
  rw [skipBlank_of_unblank (unblank_cons rfl _)]
  dsimp only [rest_behind]
  rw [drop_one, skipBlank_append hws (unblank_quote s rest), hkey, List.append_assoc, List.append_assoc]
  rfl

theorem nextKey_end (first : Bool) (hws : ∀ c ∈ ws, isBlank c = true) :
    nextKey first (behind a (ws ++ '}' :: rest)) = .ok (none, behind (a ++ ws) ('}' :: rest)) := by
  unfold nextKey
  rw [skipBlank_append hws (unblank_cons rfl _)]
  rfl

theorem colon_cons : colon (behind a (':' :: rest)) = .ok (behind (a ++ [':']) rest) := by
  unfold colon
  rw [skipBlank_of_unblank (unblank_cons rfl _)]
  exact congrArg Except.ok drop_one

theorem endText_nil : endText (behind a []) = .ok () := by
  unfold endText
  rw [skipBlank_of_unblank (by rintro _ ⟨⟩)]
  rfl

end Steps

/-! ### Values and their parts -/

section Parts

variable {fuel : Nat} {first : Bool} {a cs rest : List Char} {k k₁ k₂ k₃ k₄ : Cursor} {v : Value} {vs : List Value}
  {s : String} {fs : List (String × Value)}

theorem readItems_nil (h : nextItem first k = .ok (false, k₁)) :
    readItems (fuel + 1) first k = .ok ([], k₁.drop 1) := by
  rw [readItems, h]
  rfl

theorem readItems_cons (hnext : nextItem first k = .ok (true, k₁)) (hvalue : readValue fuel k₁ = .ok (v, k₂))
    (hitems : readItems fuel false k₂ = .ok (vs, k₃)) : readItems (fuel + 1) first k = .ok (v :: vs, k₃) := by
  simp [readItems, hnext, hvalue, hitems, bind, Except.bind, pure, Except.pure]

theorem readFields_nil (h : nextKey first k = .ok (none, k₁)) :
    readFields (fuel + 1) first k = .ok ([], k₁.drop 1) := by
  rw [readFields, h]
  rfl

theorem readFields_cons (hkey : nextKey first k = .ok (some s, k₁)) (hcolon : colon k₁ = .ok k₂)
    (hvalue : readValue fuel k₂ = .ok (v, k₃)) (hfields : readFields fuel false k₃ = .ok (fs, k₄)) :
    readFields (fuel + 1) first k = .ok ((s, v) :: fs, k₄) := by
  simp [readFields, hkey, hcolon, hvalue, hfields, bind, Except.bind, pure, Except.pure]

/-- White space before a value is skipped. -/
theorem readValue_blank {ws text : List Char} (hfuel : 0 < fuel) (hws : ∀ c ∈ ws, isBlank c = true)
    (htext : StartsItem text) :
    readValue fuel (behind a (ws ++ text)) = readValue fuel (behind (a ++ ws) text) := by
  obtain ⟨c, cs, rfl, hblank, -⟩ := htext
  obtain ⟨fuel, rfl⟩ := Nat.exists_eq_succ_of_ne_zero hfuel.ne'
  have hstop := unblank_cons hblank cs
  rw [readValue, readValue, skipBlank_append hws hstop, skipBlank_of_unblank hstop]

theorem readValue_array (h : readItems fuel true (behind (a ++ ['[']) cs) = .ok (vs, k)) :
    readValue (fuel + 1) (behind a ('[' :: cs)) = .ok (.array vs, k) := by
  rw [readValue, skipBlank_of_unblank (unblank_cons rfl cs)]
  show (readItems fuel true ((behind a ('[' :: cs)).drop 1)).map (fun r => (Value.array r.1, r.2)) = _
  rw [drop_one, h]
  rfl

theorem readValue_object (h : readFields fuel true (behind (a ++ ['{']) cs) = .ok (fs, k)) :
    readValue (fuel + 1) (behind a ('{' :: cs)) = .ok (.object fs, k) := by
  rw [readValue, skipBlank_of_unblank (unblank_cons rfl cs)]
  show (readFields fuel true ((behind a ('{' :: cs)).drop 1)).map (fun r => (Value.object r.1, r.2)) = _
  rw [drop_one, h]
  rfl

theorem readValue_quote (s : String) (rest : List Char) :
    readValue (fuel + 1) (behind a (quote s ++ rest)) = .ok (.string s, behind (a ++ quote s) rest) := by
  rw [readValue, skipBlank_of_unblank (unblank_quote s rest)]
  show (readString ((behind a (quote s ++ rest)).drop 1)).map (fun r => (Value.string r.1, r.2)) = _
  rw [readString_quote]
  rfl

theorem readWord_append (a word rest : List Char) :
    readWord (behind a (word ++ rest)) word = .ok (behind (a ++ word) rest) := by
  induction word generalizing a with
  | nil => rw [List.nil_append, List.append_nil, readWord]
  | cons c word ih =>
    rw [readWord, List.cons_append, drop_one]
    simp [ih]

theorem readValue_null (rest : List Char) :
    readValue (fuel + 1) (behind a ("null".toList ++ rest)) = .ok (.null, behind (a ++ "null".toList) rest) := by
  have hstart : Unblank ("null".toList ++ rest) := unblank_cons rfl _
  rw [readValue, skipBlank_of_unblank hstart]
  show (readWord ((behind a ('n' :: ("ull".toList ++ rest))).drop 1) "ull".toList).map (Value.null, ·) = _
  rw [drop_one, readWord_append, List.append_assoc]
  rfl

theorem readValue_true (rest : List Char) :
    readValue (fuel + 1) (behind a ("true".toList ++ rest)) = .ok (.bool true, behind (a ++ "true".toList) rest) := by
  have hstart : Unblank ("true".toList ++ rest) := unblank_cons rfl _
  rw [readValue, skipBlank_of_unblank hstart]
  show (readWord ((behind a ('t' :: ("rue".toList ++ rest))).drop 1) "rue".toList).map (Value.bool true, ·) = _
  rw [drop_one, readWord_append, List.append_assoc]
  rfl

theorem readValue_false (rest : List Char) :
    readValue (fuel + 1) (behind a ("false".toList ++ rest)) =
      .ok (.bool false, behind (a ++ "false".toList) rest) := by
  have hstart : Unblank ("false".toList ++ rest) := unblank_cons rfl _
  rw [readValue, skipBlank_of_unblank hstart]
  show (readWord ((behind a ('f' :: ("alse".toList ++ rest))).drop 1) "alse".toList).map (Value.bool false, ·) = _
  rw [drop_one, readWord_append, List.append_assoc]
  rfl

/-- The first character of a number is a digit or the sign. -/
theorem head_integer (z : Int) : ∃ c cs, integer z = c :: cs ∧ (Decimal.isDigit c = true ∨ c = '-') := by
  cases z with
  | ofNat n =>
    obtain ⟨c, cs, hds⟩ := List.exists_cons_of_ne_nil (Nat.toDigits_ne_nil (b := 10) (n := n))
    exact ⟨c, cs, hds, .inl (Decimal.isDigit_of_mem_toDigits (hds ▸ List.mem_cons_self))⟩
  | negSucc n => exact ⟨'-', _, rfl, .inr rfl⟩

/-- A digit or the sign begins no other value. -/
theorem of_digit_or_sign {c : Char} (h : Decimal.isDigit c = true ∨ c = '-') :
    isBlank c = false ∧ c ∉ ['n', 't', 'f', '"', '[', '{', ']'] := by
  have hcode : 45 ≤ c.toNat ∧ c.toNat < 58 := by
    rcases h with hdigit | rfl
    · have hdigit := Decimal.toNat_of_isDigit hdigit
      omega
    · decide
  let p := fun c => 45 ≤ c.toNat → isBlank c = false ∧ c ∉ ['n', 't', 'f', '"', '[', '{', ']']
  have hall : ∀ n < 58, p (Char.ofNat n) := by decide
  exact Text.of_toNat_lt hall hcode.2 hcode.1

theorem readValue_integer {z : Int} (hz : Fits z) (hrest : EndsNumber rest) :
    readValue (fuel + 1) (behind a (integer z ++ rest)) = .ok (.number z, behind (a ++ integer z) rest) := by
  have hread := readInteger_integer (a := a) hz hrest
  obtain ⟨c, cs, hchars, hc⟩ := head_integer z
  obtain ⟨hblank, hother⟩ := of_digit_or_sign hc
  simp only [List.mem_cons, List.not_mem_nil, or_false, not_or] at hother
  rw [hchars, List.cons_append] at hread ⊢
  rw [readValue, skipBlank_of_unblank (unblank_cons hblank _)]
  simp [hread, hother, Except.map]

end Parts

/-! ### Values -/

mutual

/-- The numbers of a value fit 64 bits. -/
def Value.Fits : Value → Prop
  | .null | .bool _ | .string _ => True
  | .number n => Json.Fits n
  | .array vs => ItemsFit vs
  | .object fs => FieldsFit fs

def ItemsFit : List Value → Prop
  | [] => True
  | v :: vs => v.Fits ∧ ItemsFit vs

def FieldsFit : List (String × Value) → Prop
  | [] => True
  | (_, v) :: fs => v.Fits ∧ FieldsFit fs

end

theorem endsNumber_cons {c : Char} (h : isBlank c = true ∨ c ∈ [',', ']', '}']) (rest : List Char) :
    EndsNumber (c :: rest) := by
  have hother : ∀ d ∈ [' ', '\n', '\t', '\r', ',', ']', '}'],
      Decimal.isDigit d = false ∧ d ≠ '.' ∧ d ≠ 'e' ∧ d ≠ 'E' := by simp [Decimal.isDigit]
  have hmem : c ∈ [' ', '\n', '\t', '\r', ',', ']', '}'] := by
    rcases h with hblank | hclose
    · simp only [isBlank, Bool.or_eq_true, beq_iff_eq] at hblank
      rcases hblank with ((rfl | rfl) | rfl) | rfl <;> decide
    · exact List.mem_append_right [' ', '\n', '\t', '\r'] hclose
  rintro d ⟨⟩
  exact hother c hmem

section Write

variable {l : Layout}

theorem startsItem_write (l : Layout) (depth : Nat) (v : Value) (rest : List Char) :
    StartsItem (write l depth v ++ rest) := by
  match v with
  | .null => exact ⟨'n', _, rfl, rfl, by decide⟩
  | .bool true => exact ⟨'t', _, rfl, rfl, by decide⟩
  | .bool false => exact ⟨'f', _, rfl, rfl, by decide⟩
  | .number z =>
    obtain ⟨c, cs, hz, hc⟩ := head_integer z
    obtain ⟨hblank, hother⟩ := of_digit_or_sign hc
    exact ⟨c, cs ++ rest, congrArg (· ++ rest) hz, hblank, fun hend => hother (by simp [hend])⟩
  | .string s => exact ⟨'"', _, rfl, rfl, by decide⟩
  | .array [] | .array (_ :: _) => exact ⟨'[', _, rfl, rfl, by decide⟩
  | .object [] | .object (_ :: _) => exact ⟨'{', _, rfl, rfl, by decide⟩

theorem length_write_pos (l : Layout) (depth : Nat) (v : Value) : 0 < (write l depth v).length := by
  obtain ⟨c, cs, hwrite, -⟩ := startsItem_write l depth v []
  rw [List.append_nil] at hwrite
  exact hwrite ▸ Nat.succ_pos _

/-- An end behind white space ends a number too. -/
theorem endsNumber_append {ws : List Char} (hws : ∀ c ∈ ws, isBlank c = true) {c : Char} (hc : c ∈ [',', ']', '}'])
    (rest : List Char) : EndsNumber (ws ++ c :: rest) := by
  cases ws with
  | nil => exact endsNumber_cons (.inr hc) rest
  | cons w ws => exact endsNumber_cons (.inl (hws w List.mem_cons_self)) _

theorem endsNumber_writeItems (l : Layout) (depth : Nat) (vs : List Value) {ws : List Char}
    (hws : ∀ c ∈ ws, isBlank c = true) (rest : List Char) :
    EndsNumber (writeItems l depth vs ++ (ws ++ ']' :: rest)) := by
  match vs with
  | [] => exact endsNumber_append hws (by decide) rest
  | _ :: _ => exact endsNumber_cons (.inr (by decide)) _

theorem endsNumber_writeFields (l : Layout) (depth : Nat) (fs : List (String × Value)) {ws : List Char}
    (hws : ∀ c ∈ ws, isBlank c = true) (rest : List Char) :
    EndsNumber (writeFields l depth fs ++ (ws ++ '}' :: rest)) := by
  match fs with
  | [] => exact endsNumber_append hws (by decide) rest
  | _ :: _ => exact endsNumber_cons (.inr (by decide)) _

mutual

theorem readValue_write (depth : Nat) (v : Value) (hv : v.Fits) {fuel : Nat}
    (hfuel : (write l depth v).length ≤ fuel) {a rest : List Char} (hrest : EndsNumber rest) :
    readValue fuel (behind a (write l depth v ++ rest)) = .ok (v, behind (a ++ write l depth v) rest) := by
  obtain ⟨fuel, rfl⟩ :=
    Nat.exists_eq_succ_of_ne_zero (Nat.ne_zero_of_lt (Nat.lt_of_lt_of_le (length_write_pos l depth v) hfuel))
  match v with
  | .null => exact readValue_null rest
  | .bool true => exact readValue_true rest
  | .bool false => exact readValue_false rest
  | .number z => exact readValue_integer hv hrest
  | .string s => exact readValue_quote s rest
  | .array [] =>
    obtain ⟨fuel, rfl⟩ := Nat.exists_eq_succ_of_ne_zero (Nat.ne_zero_of_lt (Nat.succ_le_succ_iff.1 hfuel))
    have hend : nextItem true (behind (a ++ ['[']) (']' :: rest)) = _ := nextItem_end true (List.forall_mem_nil _)
    have hitems : readItems (fuel + 1) true (behind (a ++ ['[']) (']' :: rest)) = _ := readItems_nil hend
    refine (readValue_array hitems).trans ?_
    rw [drop_one, write]
    simp
  | .array (v :: vs) =>
    have hpos := length_write_pos l (depth + 1) v
    simp only [write, List.cons_append, List.append_assoc, List.nil_append, List.length_cons, List.length_append]
      at hfuel ⊢
    obtain ⟨fuel, rfl⟩ := Nat.exists_eq_succ_of_ne_zero (n := fuel) (by omega)
    have hfirst : (write l (depth + 1) v).length ≤ fuel := by omega
    have hothers : (writeItems l (depth + 1) vs).length < fuel := by omega
    have hline := isBlank_of_mem_line l depth
    have hnext := nextItem_first (a := a ++ ['[']) (isBlank_of_mem_line l (depth + 1))
      (startsItem_write l (depth + 1) v (writeItems l (depth + 1) vs ++ (l.line depth ++ ']' :: rest)))
    have hvalue := readValue_write (depth + 1) v hv.1 hfirst (a := a ++ ['['] ++ l.line (depth + 1))
      (endsNumber_writeItems l (depth + 1) vs hline rest)
    have hitems := readItems_writeItems (depth + 1) vs hv.2 hothers
      (a := a ++ ['['] ++ l.line (depth + 1) ++ write l (depth + 1) v) hline rest
    rw [readValue_array (readItems_cons hnext hvalue hitems)]
    simp
  | .object [] =>
    obtain ⟨fuel, rfl⟩ := Nat.exists_eq_succ_of_ne_zero (Nat.ne_zero_of_lt (Nat.succ_le_succ_iff.1 hfuel))
    have hend : nextKey true (behind (a ++ ['{']) ('}' :: rest)) = _ := nextKey_end true (List.forall_mem_nil _)
    have hfields : readFields (fuel + 1) true (behind (a ++ ['{']) ('}' :: rest)) = _ := readFields_nil hend
    refine (readValue_object hfields).trans ?_
    rw [drop_one, write]
    simp
  | .object ((s, v) :: fs) =>
    simp only [write, colon_eq, List.cons_append, List.append_assoc, List.nil_append, List.length_cons,
      List.length_append] at hfuel ⊢
    obtain ⟨fuel, rfl⟩ := Nat.exists_eq_succ_of_ne_zero (n := fuel) (by omega)
    have hfirst : (write l (depth + 1) v).length ≤ fuel := by omega
    have hothers : (writeFields l (depth + 1) fs).length < fuel := by omega
    have hpos : 0 < fuel := Nat.lt_of_le_of_lt (Nat.zero_le _) hothers
    have hline := isBlank_of_mem_line l depth
    have hkey := nextKey_first (a := a ++ ['{']) s (isBlank_of_mem_line l (depth + 1))
      (':' :: (l.gap ++ (write l (depth + 1) v ++ (writeFields l (depth + 1) fs ++ (l.line depth ++ '}' :: rest)))))
    have hvalue := (readValue_blank hpos (isBlank_of_mem_gap l) (startsItem_write l (depth + 1) v _)).trans
      (readValue_write (depth + 1) v hv.1 hfirst (a := a ++ ['{'] ++ (l.line (depth + 1) ++ quote s) ++ [':'] ++ l.gap)
        (endsNumber_writeFields l (depth + 1) fs hline rest))
    have hfields := readFields_writeFields (depth + 1) fs hv.2 hothers
      (a := a ++ ['{'] ++ (l.line (depth + 1) ++ quote s) ++ [':'] ++ l.gap ++ write l (depth + 1) v) hline rest
    rw [readValue_object (readFields_cons hkey colon_cons hvalue hfields)]
    simp

theorem readItems_writeItems (depth : Nat) (vs : List Value) (hvs : ItemsFit vs) {fuel : Nat}
    (hfuel : (writeItems l depth vs).length < fuel) {a ws : List Char} (hws : ∀ c ∈ ws, isBlank c = true)
    (rest : List Char) : readItems fuel false (behind a (writeItems l depth vs ++ (ws ++ ']' :: rest))) =
      .ok (vs, behind (a ++ (writeItems l depth vs ++ (ws ++ [']']))) rest) := by
  obtain ⟨fuel, rfl⟩ := Nat.exists_eq_succ_of_ne_zero (Nat.ne_zero_of_lt hfuel)
  match vs with
  | [] =>
    rw [writeItems, List.nil_append, List.nil_append, readItems_nil (nextItem_end false hws), drop_one,
      List.append_assoc]
  | v :: vs =>
    have hpos := length_write_pos l depth v
    simp only [writeItems, List.cons_append, List.append_assoc, List.length_cons, List.length_append] at hfuel ⊢
    have hfirst : (write l depth v).length ≤ fuel := by omega
    have hothers : (writeItems l depth vs).length < fuel := by omega
    have hnext := nextItem_comma (a := a) (isBlank_of_mem_line l depth)
      (startsItem_write l depth v (writeItems l depth vs ++ (ws ++ ']' :: rest)))
    have hvalue := readValue_write depth v hvs.1 hfirst (a := a ++ ',' :: l.line depth)
      (endsNumber_writeItems l depth vs hws rest)
    have hitems := readItems_writeItems depth vs hvs.2 hothers (a := a ++ ',' :: l.line depth ++ write l depth v) hws
      rest
    rw [readItems_cons hnext hvalue hitems]
    simp

theorem readFields_writeFields (depth : Nat) (fs : List (String × Value)) (hfs : FieldsFit fs) {fuel : Nat}
    (hfuel : (writeFields l depth fs).length < fuel) {a ws : List Char} (hws : ∀ c ∈ ws, isBlank c = true)
    (rest : List Char) : readFields fuel false (behind a (writeFields l depth fs ++ (ws ++ '}' :: rest))) =
      .ok (fs, behind (a ++ (writeFields l depth fs ++ (ws ++ ['}']))) rest) := by
  obtain ⟨fuel, rfl⟩ := Nat.exists_eq_succ_of_ne_zero (Nat.ne_zero_of_lt hfuel)
  match fs with
  | [] =>
    rw [writeFields, List.nil_append, List.nil_append, readFields_nil (nextKey_end false hws), drop_one,
      List.append_assoc]
  | (s, v) :: fs =>
    simp only [writeFields, colon_eq, List.cons_append, List.append_assoc, List.length_cons, List.length_append]
      at hfuel ⊢
    have hfirst : (write l depth v).length ≤ fuel := by omega
    have hothers : (writeFields l depth fs).length < fuel := by omega
    have hkey := nextKey_comma (a := a) s (isBlank_of_mem_line l depth)
      (':' :: (l.gap ++ (write l depth v ++ (writeFields l depth fs ++ (ws ++ '}' :: rest)))))
    have hpos : 0 < fuel := Nat.lt_of_le_of_lt (Nat.zero_le _) hothers
    have hvalue := (readValue_blank hpos (isBlank_of_mem_gap l) (startsItem_write l depth v _)).trans
      (readValue_write depth v hfs.1 hfirst (a := a ++ (',' :: l.line depth ++ quote s) ++ [':'] ++ l.gap)
        (endsNumber_writeFields l depth fs hws rest))
    have hfields := readFields_writeFields depth fs hfs.2 hothers
      (a := a ++ (',' :: l.line depth ++ quote s) ++ [':'] ++ l.gap ++ write l depth v) hws rest
    rw [readFields_cons hkey colon_cons hvalue hfields]
    simp

end

/-- In either layout the text of a value is read as the value. -/
theorem ofText_write (l : Layout) {v : Value} (hv : v.Fits) : Value.ofText (String.ofList (write l 0 v)) = .ok v := by
  have hend : EndsNumber [] := by rintro _ ⟨⟩
  have hread := readValue_write (l := l) 0 v hv (a := []) (Nat.le_succ _) hend
  rw [List.append_nil, List.nil_append] at hread
  unfold Value.ofText
  rw [String.toList_ofList]
  show (readValue _ (behind [] (write l 0 v)) >>= _) = _
  rw [hread]
  show (endText (behind (write l 0 v) []) >>= fun _ => pure v) = _
  rw [endText_nil]
  rfl

/-- **An indented value** is read back. -/
theorem ofText_pretty {v : Value} (hv : v.Fits) : Value.ofText v.pretty = .ok v := ofText_write .indented hv

end Write

end CommitCharts.Json
