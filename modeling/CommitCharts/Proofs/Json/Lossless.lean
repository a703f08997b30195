import CommitCharts.Proofs.Json.Value
import CommitCharts.Record.Json
import CommitCharts.Series.Summary

/-!
# CommitCharts.Proofs.Json.Lossless — records and summaries read back

The text of a record is read as the record, field after field (`ofJson_compact`).  The text of a summary is read as its
fields in order, and no other summary has it (`json_lossless`).
-/

namespace CommitCharts

open Json Json.Cursor

/-! ### Fields of a record -/

namespace Record

section Values

variable {a rest : List Char} {n : Nat}

theorem stringValue_quote (s : String) (rest : List Char) :
    stringValue (behind a (quote s ++ rest)) = .ok (s, behind (a ++ quote s) rest) := by
  unfold stringValue atValue
  dsimp only
  rw [skipBlank_of_unblank (unblank_quote s rest)]
  exact readString_quote s a rest

theorem naturalValue_toDigits {bound : Nat} (expected : String) (hbound : n < bound) (hfits : n < UInt64.size)
    (hrest : EndsNumber rest) :
    naturalValue bound expected (behind a (Nat.toDigits 10 n ++ rest)) =
      .ok (n, behind (a ++ Nat.toDigits 10 n) rest) := by
  have hdigits : ∀ c ∈ Nat.toDigits 10 n, Decimal.isDigit c = true := fun _ => Decimal.isDigit_of_mem_toDigits
  have hread := readNumber_toDigits (a := a) false hfits hrest (by simp)
  obtain ⟨c, cs, hds⟩ := List.exists_cons_of_ne_nil (Nat.toDigits_ne_nil (b := 10) (n := n))
  have hdigit := hdigits c (hds ▸ List.mem_cons_self)
  have hsign : c ≠ '-' := fun hc => absurd hdigit (hc ▸ by decide)
  have hblank := (of_digit_or_sign (.inl hdigit)).1
  rw [hds, List.cons_append] at hread ⊢
  unfold naturalValue atValue
  dsimp only
  rw [skipBlank_of_unblank (unblank_cons hblank _)]
  simp [hdigit, hread, hbound]

end Values

theorem ofName?_name (f : Field) : Field.ofName? f.name = some f := by
  cases f <;> rfl

theorem readFields_end {fuel : Nat} {first : Bool} {p : Partial} {r : Record} {a rest : List Char}
    (hwhole : p.whole = .ok r) :
    Record.readFields (fuel + 1) first p (behind a ('}' :: rest)) = .ok (r, behind (a ++ ['}']) rest) := by
  have hkey : nextKey first (behind a ('}' :: rest)) = .ok (none, behind (a ++ []) ('}' :: rest)) :=
    nextKey_end first (List.forall_mem_nil _)
  rw [List.append_nil] at hkey
  simp [Record.readFields, hkey, hwhole, drop_one, bind, Except.bind, pure, Except.pure]

variable {fuel : Nat} {first : Bool} {f : Field} {p q : Partial} {k k₁ k₂ k₃ : Cursor}

theorem readFields_field (hkey : nextKey first k = .ok (some f.name, k₁)) (hnew : p.has f = false)
    (hcolon : colon k₁ = .ok k₂) (hread : p.read f k₂ = .ok (q, k₃)) :
    Record.readFields (fuel + 1) first p k = Record.readFields fuel false q k₃ := by
  simp [Record.readFields, hkey, ofName?_name, hnew, hcolon, hread, bind, Except.bind]

section Reads

variable {a rest : List Char}

theorem read_commit (commit : String) :
    p.read .commit (behind a (quote commit ++ rest)) =
      .ok ({ p with commit := some commit }, behind (a ++ quote commit) rest) := by
  rw [Partial.read, stringValue_quote]
  rfl

theorem read_testName (name : String) :
    p.read .testName (behind a (quote name ++ rest)) =
      .ok ({ p with testName := some name }, behind (a ++ quote name) rest) := by
  rw [Partial.read, stringValue_quote]
  rfl

theorem read_testId (id : TestId) (hrest : EndsNumber rest) :
    p.read .testId (behind a (Nat.toDigits 10 id.toNat ++ rest)) =
      .ok ({ p with testId := some id }, behind (a ++ Nat.toDigits 10 id.toNat) rest) := by
  have hbound : id.toNat < UInt32.size := id.toNat_lt
  have hfits : id.toNat < UInt64.size := Nat.lt_trans hbound (by decide)
  rw [Partial.read, readTestId, naturalValue_toDigits "u32" hbound hfits hrest]
  simp [Except.map]

theorem read_cycles (cycles : UInt64) (hrest : EndsNumber rest) :
    p.read .cycles (behind a (Nat.toDigits 10 cycles.toNat ++ rest)) =
      .ok ({ p with cycles := some cycles }, behind (a ++ Nat.toDigits 10 cycles.toNat) rest) := by
  have hbound : cycles.toNat < UInt64.size := cycles.toNat_lt
  rw [Partial.read, readCycles, naturalValue_toDigits "u64" hbound hbound hrest]
  simp [Except.map]

end Reads

/-- The text of a record without white space. -/
theorem write_toJson (r : Record) :
    write .compact 0 r.toJson =
      '{' :: (quote "commit" ++ ':' :: (quote r.commit ++ ',' :: (quote "test_id" ++
        ':' :: (Nat.toDigits 10 r.testId.toNat ++ ',' :: (quote "test_name" ++ ':' :: (quote r.testName ++
          ',' :: (quote "cycles" ++ ':' :: (Nat.toDigits 10 r.cycles.toNat ++ ['}'])))))))) := by
  have hinteger (n : Nat) : integer (n : Int) = Nat.toDigits 10 n := rfl
  simp [toJson, write, writeFields, Layout.line, Layout.colon, hinteger]

/-- **A record is read back.** -/
theorem ofJson_compact (r : Record) : ofJson r.toJson.compact = .ok r := by
  have hfirst (s : String) (a rest : List Char) :
      nextKey true (behind a (quote s ++ rest)) = .ok (some s, behind (a ++ quote s) rest) :=
    nextKey_first s (List.forall_mem_nil _) rest
  have hnext (s : String) (a rest : List Char) :
      nextKey false (behind a (',' :: (quote s ++ rest))) = .ok (some s, behind (a ++ ',' :: quote s) rest) :=
    nextKey_comma s (List.forall_mem_nil _) rest
  have hcomma (rest : List Char) : EndsNumber (',' :: rest) := endsNumber_cons (.inr (by decide)) rest
  have hbrace : EndsNumber ['}'] := endsNumber_cons (.inr (by decide)) []
  -- the four fields, each with what follows it
  let last := Nat.toDigits 10 r.cycles.toNat ++ ['}']
  let third := quote r.testName ++ ',' :: (quote "cycles" ++ ':' :: last)
  let second := Nat.toDigits 10 r.testId.toNat ++ ',' :: (quote "test_name" ++ ':' :: third)
  let fields := quote "commit" ++ ':' :: (quote r.commit ++ ',' :: (quote "test_id" ++ ':' :: second))
  have hfields (fuel : Nat) :
      Record.readFields (fuel + 5) true {} (behind ['{'] fields) = .ok (r, behind ('{' :: fields) []) := by
    refine (readFields_field (f := .commit) (hfirst _ _ _) rfl colon_cons (read_commit r.commit)).trans ?_
    refine (readFields_field (f := .testId) (hnext _ _ _) rfl colon_cons (read_testId _ (hcomma _))).trans ?_
    refine (readFields_field (f := .testName) (hnext _ _ _) rfl colon_cons (read_testName r.testName)).trans ?_
    refine (readFields_field (f := .cycles) (hnext _ _ _) rfl colon_cons (read_cycles _ hbrace)).trans ?_
    rw [readFields_end rfl]
    simp [fields, second, third, last, Field.name]
  have htext : r.toJson.compact = String.ofList ('{' :: fields) := congrArg String.ofList (write_toJson r)
  have hfuel : ('{' :: fields).length + 1 = fields.length - 3 + 5 := by
    have hfour : 3 ≤ fields.length := by simp [fields, quote]; omega
    rw [List.length_cons]
    omega
  have hread : Record.read (behind [] ('{' :: fields)) = .ok (r, behind ('{' :: fields) []) := by
    unfold Record.read atValue
    dsimp only
    rw [skipBlank_of_unblank (unblank_cons rfl _)]
    show Record.readFields (('{' :: fields).length + 1) true {} ((behind [] ('{' :: fields)).drop 1) = _
    rw [hfuel, drop_one]
    exact hfields _
  rw [htext]
  unfold ofJson
  rw [String.toList_ofList]
  show (Record.read (behind [] ('{' :: fields)) >>= _) = _
  rw [hread]
  show (endText (behind ('{' :: fields) []) >>= fun _ => pure r) = _
  rw [endText_nil]
  rfl

end Record

/-! ### Rows of a summary -/

theorem Json.itemsFit_map {α : Type} {f : α → Value} (h : ∀ x, (f x).Fits) (xs : List α) : ItemsFit (xs.map f) := by
  induction xs with
  | nil => trivial
  | cons x xs ih => exact ⟨h x, ih⟩

theorem Json.fits_natCast {n : Nat} (h : n < UInt64.size) : Json.Fits (n : Int) := by
  unfold UInt64.size at h
  constructor <;> omega

theorem TestCycles.fits_toJson (t : TestCycles) : t.toJson.Fits := by
  have hid : t.testId.toNat < UInt64.size := Nat.lt_trans t.testId.toNat_lt (by decide)
  exact ⟨fits_natCast hid, trivial, fits_natCast t.cycles.toNat_lt, trivial⟩

theorem CommitRow.fits_toJson (r : CommitRow) : r.toJson.Fits :=
  ⟨trivial, itemsFit_map TestCycles.fits_toJson r.cycles, trivial⟩

theorem TestCycles.toJson_injective : Function.Injective TestCycles.toJson := by
  rintro ⟨id, test, cycles⟩ ⟨id', test', cycles'⟩ h
  simp only [toJson, Value.object.injEq, List.cons.injEq, Prod.mk.injEq, Value.number.injEq, Value.string.injEq,
    Int.natCast_inj, true_and, and_true] at h
  obtain ⟨hid, htest, hcycles⟩ := h
  rw [UInt32.toNat_inj.1 hid, htest, UInt64.toNat_inj.1 hcycles]

theorem CommitRow.toJson_injective : Function.Injective CommitRow.toJson := by
  rintro ⟨commit, cycles⟩ ⟨commit', cycles'⟩ h
  simp only [toJson, Value.object.injEq, List.cons.injEq, Prod.mk.injEq, Value.array.injEq, Value.string.injEq,
    true_and, and_true] at h
  obtain ⟨hcommit, hcycles⟩ := h
  rw [hcommit, TestCycles.toJson_injective.list_map hcycles]

namespace Summary

theorem fits_toJson {s : Summary} (hrecords : s.records < UInt64.size) (hseen : s.commitsSeen < UInt64.size) :
    s.toJson.Fits := by
  have hversion : s.schemaVersion.toNat < UInt64.size := Nat.lt_trans s.schemaVersion.toNat_lt (by decide)
  exact ⟨fits_natCast hversion, fits_natCast hrecords, fits_natCast hseen, itemsFit_map CommitRow.fits_toJson s.commits,
    trivial⟩

theorem toJson_injective : Function.Injective toJson := by
  rintro ⟨version, records, seen, commits⟩ ⟨version', records', seen', commits'⟩ h
  simp only [toJson, Value.object.injEq, List.cons.injEq, Prod.mk.injEq, Value.array.injEq, Value.number.injEq,
    Int.natCast_inj, true_and, and_true] at h
  obtain ⟨hversion, hrecords, hseen, hcommits⟩ := h
  rw [UInt32.toNat_inj.1 hversion, hrecords, hseen, CommitRow.toJson_injective.list_map hcommits]

end Summary

/-- **The JSON texts lose nothing.**  A record is read back from its text without white space.  The indented text of a
summary whose counts are machine words is read as the fields in order: the schema version, the two counts, and for
every commit its name and, test after test, the cycles.  No other summary has that text. -/
theorem json_lossless :
    (∀ r : Record, Record.ofJson r.toJson.compact = .ok r) ∧
    (∀ s : Summary, s.records < UInt64.size → s.commitsSeen < UInt64.size →
      Value.ofText s.prettyText = .ok (.object [
        ("schema_version", .number s.schemaVersion.toNat),
        ("records", .number s.records),
        ("commits_seen", .number s.commitsSeen),
        ("commits", .array (s.commits.map fun row => .object [
          ("commit", .string row.commit),
          ("cycles", .array (row.cycles.map fun t => .object [
            ("test_id", .number t.testId.toNat),
            ("test", .string t.test),
            ("cycles", .number t.cycles.toNat)]))]))]) ∧
      ∀ t : Summary, t.records < UInt64.size → t.commitsSeen < UInt64.size →
        s.prettyText = t.prettyText → s = t) := by
  refine ⟨Record.ofJson_compact, fun s hrecords hseen => ⟨?_, fun t hrecords' hseen' htext => ?_⟩⟩
  · exact ofText_pretty (Summary.fits_toJson hrecords hseen)
  · have hs : Value.ofText s.prettyText = .ok s.toJson := ofText_pretty (Summary.fits_toJson hrecords hseen)
    have ht : Value.ofText t.prettyText = .ok t.toJson := ofText_pretty (Summary.fits_toJson hrecords' hseen')
    exact Summary.toJson_injective (Except.ok.inj (hs.symm.trans ((congrArg Value.ofText htext).trans ht)))

section Escapes

/-- Quotes, control characters and letters beyond ASCII, and the largest numbers. -/
def escapesRecord : Record := ⟨"a\"b\\c\n\t\x01é😀", 4294967295, "", 18446744073709551615⟩

/-- A commit without tests stands before one with a test. -/
def escapesSummary : Summary :=
  ⟨1, 18446744073709551615, 2, [⟨"\"", []⟩, ⟨"\\\x1f", [⟨7, "é\r", 18446744073709551615⟩]⟩]⟩

def swappedSummary : Summary := { escapesSummary with commits := escapesSummary.commits.reverse }

theorem json_lossless_escapes :
    Record.ofJson escapesRecord.toJson.compact = .ok escapesRecord ∧
      escapesSummary.records < UInt64.size ∧ escapesSummary.commitsSeen < UInt64.size ∧
      Value.ofText escapesSummary.prettyText = .ok (.object [
        ("schema_version", .number 1),
        ("records", .number 18446744073709551615),
        ("commits_seen", .number 2),
        ("commits", .array [
          .object [("commit", .string "\""), ("cycles", .array [])],
          .object [("commit", .string "\\\x1f"), ("cycles", .array [
            .object [("test_id", .number 7), ("test", .string "é\r"), ("cycles", .number 18446744073709551615)]])]])]) ∧
      escapesSummary.prettyText ≠ swappedSummary.prettyText := by
  have hrecords : escapesSummary.records < UInt64.size := by decide
  have hseen : escapesSummary.commitsSeen < UInt64.size := by decide
  obtain ⟨hrecord, hsummary⟩ := json_lossless
  obtain ⟨hread, hunique⟩ := hsummary escapesSummary hrecords hseen
  refine ⟨hrecord escapesRecord, hrecords, hseen, hread, fun htext => ?_⟩
  exact absurd (hunique swappedSummary hrecords hseen htext) (by decide)

end Escapes

end CommitCharts
