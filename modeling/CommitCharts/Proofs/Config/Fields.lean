import CommitCharts.Config.Reader
import CommitCharts.Proofs.Config
import CommitCharts.Proofs.Reading
import CommitCharts.Proofs.Yaml.Tree
import Mathlib.Data.List.Nodup

/-!
# CommitCharts.Proofs.Config.Fields — settings field by field

A text with a line for each of some fields is read as the settings that have these fields, and the defaults elsewhere,
whatever the order of the lines; whether they are accepted is decided afterwards.  A line too many, for a field again or
for a name that is no field, is a fault wherever it stands (`parse_lines`).
-/

namespace CommitCharts.Config

open Yaml (Document Entry Line Mark Node)

/-! ### Lines of fields -/

/-- The value of a field as it is written. -/
def Field.entry (c : Config) : Field → Entry
  | .version => .number c.version.toNat
  | .database => .quoted c.database.text
  | .docsDir => .quoted c.docsDir.text
  | .suiteDir => .quoted c.suiteDir.text
  | .maxCommits => .number c.maxCommits.toNat
  | .overviewSize => .pair c.overviewSize.width.toNat c.overviewSize.height.toNat
  | .trendSize => .pair c.trendSize.width.toNat c.trendSize.height.toNat

def Field.line (c : Config) (f : Field) : Line := ⟨f.name, f.entry c⟩

/-- The settings with some fields from elsewhere. -/
def override (base c : Config) (fs : List Field) : Config where
  version := if .version ∈ fs then c.version else base.version
  database := if .database ∈ fs then c.database else base.database
  docsDir := if .docsDir ∈ fs then c.docsDir else base.docsDir
  suiteDir := if .suiteDir ∈ fs then c.suiteDir else base.suiteDir
  maxCommits := if .maxCommits ∈ fs then c.maxCommits else base.maxCommits
  overviewSize := if .overviewSize ∈ fs then c.overviewSize else base.overviewSize
  trendSize := if .trendSize ∈ fs then c.trendSize else base.trendSize

theorem override_cons (base c : Config) (f : Field) (fs : List Field) :
    base.override c (f :: fs) = (base.override c [f]).override c fs := by
  cases f <;> simp [override]

/-- All paths are written without escapes. -/
def PathsPrintable (c : Config) : Prop :=
  ∀ p ∈ [c.database, c.docsDir, c.suiteDir], ∀ ch ∈ p.text.toList, Yaml.IsPrintable ch

theorem Field.isReadable_entry {c : Config} (hpaths : c.PathsPrintable) (f : Field) : (f.entry c).IsReadable := by
  cases f with
  | version | maxCommits => trivial
  | database => exact hpaths c.database (by simp)
  | docsDir => exact hpaths c.docsDir (by simp)
  | suiteDir => exact hpaths c.suiteDir (by simp)
  | overviewSize => exact ⟨c.overviewSize.width.toNat_lt, c.overviewSize.height.toNat_lt⟩
  | trendSize => exact ⟨c.trendSize.width.toNat_lt, c.trendSize.height.toNat_lt⟩

/-- Characters of names: letters in lower case, digits and underscores.  Beyond ASCII all characters that stay as they
are count as letters. -/
def isNameChar (c : Char) : Bool :=
  ('a' ≤ c && c ≤ 'z') || Decimal.isDigit c || c == '_' ||
    ('\u00a0' < c && Yaml.isAllowed c && !Yaml.isBreak c && c != '\ufeff')

def IsName (s : String) : Prop := s.toList ≠ [] ∧ ∀ c ∈ s.toList, isNameChar c = true

theorem isPlainChar_of_isNameChar {c : Char} (h : isNameChar c = true) :
    Yaml.isPlainChar c = true ∧ Yaml.isTextChar c = true := by
  by_cases hascii : c.toNat < 127
  · let p := fun c => isNameChar c = true → Yaml.isPlainChar c = true ∧ Yaml.isTextChar c = true
    have hall : ∀ n < 127, p (Char.ofNat n) := by decide
    exact Text.of_toNat_lt hall hascii h
  · have hne {x : Char} (hx : x.toNat < 127) : c ≠ x := fun hc => hascii (hc ▸ hx)
    have hlow : ¬ c ≤ 'z' := fun hc => hascii (Nat.lt_of_le_of_lt hc (by decide))
    have hdigit : ¬ c ≤ '9' := fun hc => hascii (Nat.lt_of_le_of_lt hc (by decide))
    simp only [isNameChar, Decimal.isDigit, hlow, hdigit, hne (x := '_') (by decide), Bool.or_eq_true, Bool.and_eq_true,
      beq_iff_eq, decide_eq_true_eq, and_false, false_or, Bool.not_eq_true', bne_iff_ne, ne_eq] at h
    obtain ⟨⟨⟨hhigh, hallowed⟩, hbreak⟩, hmark⟩ := h
    constructor
    · have hlist : ∀ x ∈ Yaml.indicators, x = '\ufeff' ∨ x.toNat < 127 := by simp [Yaml.indicators]
      refine Yaml.isPlainChar_iff.2 ⟨?_, fun hc => ?_⟩
      · simp [Yaml.isGap, Yaml.isBlank, hbreak, hne (x := ' ') (by decide), hne (x := '\t') (by decide)]
      · rcases hlist c hc with hc | hc
        · exact hmark hc
        · exact hascii hc
    · have hnext : c ≠ '\u0085' := fun hc => absurd (hc ▸ hhigh) (by decide)
      simp [Yaml.isTextChar, hallowed, hnext, hne (x := '\r') (by decide)]

theorem isWritten_of_isName {s : String} (hs : IsName s) {e : Entry} (he : e.IsReadable) : Line.IsWritten ⟨s, e⟩ where
  nonempty := hs.1
  word := fun c hc => (isPlainChar_of_isNameChar (hs.2 c hc)).1
  text := fun c hc => (isPlainChar_of_isNameChar (hs.2 c hc)).2
  entry := he

theorem Field.isName_name (f : Field) : IsName f.name := by
  cases f <;> exact ⟨by decide, List.all_eq_true.1 rfl⟩

theorem Field.isReadable_line {c : Config} (hpaths : c.PathsPrintable) (f : Field) : (f.line c).IsReadable where
  toIsWritten := isWritten_of_isName f.isName_name (f.isReadable_entry hpaths)
  short := by
    show Yaml.byteSize f.name.toList ≤ 1024
    cases f <;> decide

/-! ### Values -/

section Values

variable (d : Document) {c : Config} {m : Mark} {n : Nat}

theorem readNatural_toString (h : n < UInt64.size) (expected : Expected) (path : String) :
    readNatural d expected path (.scalar m none ⟨toString n, none, .plain⟩) = .ok (m, n) := by
  have hread : Yaml.Scalar.natural? ⟨toString n, none, .plain⟩ = some n := Yaml.Scalar.natural?_toString h
  simp only [readNatural, target, hread, bind, Except.bind, pure, Except.pure]

theorem readWord_toString (w : UInt32) (path : String) :
    readWord d path (.scalar m none ⟨toString w.toNat, none, .plain⟩) = .ok w := by
  have hword : w.toNat < UInt32.size := w.toNat_lt
  have hnumber := readNatural_toString d (m := m) (Nat.lt_trans hword (by decide)) .word path
  simp only [readWord, hnumber, hword, if_true, bind, Except.bind, pure, Except.pure, Nat.toUInt32, UInt32.ofNat_toNat]

theorem readCount_toString (w : UInt64) (path : String) :
    readCount d path (.scalar m none ⟨toString w.toNat, none, .plain⟩) = .ok w := by
  have hnumber := readNatural_toString d (m := m) w.toNat_lt .count path
  simp only [readCount, hnumber, bind, Except.bind, pure, Except.pure, Nat.toUInt64, UInt64.ofNat_toNat]

/-- The numbers of a pair are read as a size. -/
theorem readSize_toString {a b : Mark} (s : Chart.Size) (path : String) :
    readSize d path (.sequence m none
      [.scalar a none ⟨toString s.width.toNat, none, .plain⟩, .scalar b none ⟨toString s.height.toNat, none, .plain⟩]
      true) = .ok s := by
  have hwidth := readWord_toString d (m := a) s.width (itemPath path 0)
  have hheight := readWord_toString d (m := b) s.height (itemPath path 1)
  simp only [readSize, target, readPair, hwidth, hheight, bind, Except.bind, pure, Except.pure]
  rfl

/-- The value of a field, as it is written, sets the field. -/
theorem readField_entry (base : Config) (f : Field) (path : String) {v : Node} (hv : (f.entry c).IsReadAs v) :
    readField d base f path v = .ok (base.override c [f]) := by
  cases f with
  | version =>
    obtain ⟨⟩ := hv
    rw [readField, readWord_toString]
    rfl
  | database | docsDir | suiteDir =>
    obtain ⟨⟩ := hv
    rfl
  | maxCommits =>
    obtain ⟨⟩ := hv
    rw [readField, readCount_toString]
    rfl
  | overviewSize | trendSize =>
    obtain ⟨⟩ := hv
    rw [readField, readSize_toString]
    rfl

end Values

/-! ### Entries -/

section Entries

variable (d : Document) (m : Mark) (closed : Bool) {c : Config} {e : Node × Node} {es : List (Node × Node)}
  {fs : List Field} {more : List Line}

theorem readKey_line {f : Field} (he : (f.line c).IsReadAs e) : readKey d e.1 = .ok f ∧ keyPath e.1 = f.name := by
  obtain ⟨hv⟩ := he
  have hname : Field.ofName? (f.line c).key = some f := f.ofName?_name
  refine ⟨?_, rfl⟩
  simp only [readKey, target, hname, bind, Except.bind, pure, Except.pure]

/-- The entry of a field sets the field, unless it was read before. -/
theorem readEntries_cons {f : Field} (he : (f.line c).IsReadAs e) (seen : List Field) (base : Config) :
    readEntries d m closed seen base (e :: es) =
      if f ∈ seen then .error (.problem (.duplicateField f) "" m)
      else readEntries d m closed (f :: seen) (base.override c [f]) es := by
  obtain ⟨hkey, hpath⟩ := readKey_line d he
  obtain ⟨hv⟩ := he
  have hfield := readField_entry d base f f.name hv
  rw [readEntries, hkey, hpath]
  by_cases hseen : f ∈ seen
  · simp [hseen, bind, Except.bind, throw, throwThe, MonadExceptOf.throw]
  · simp [hseen, hfield, bind, Except.bind]

/-- A key that is no field is a fault. -/
theorem readEntries_unknown {l : Line} (he : l.IsReadAs e) (hkey : ∀ f : Field, f.name ≠ l.key)
    (seen : List Field) (base : Config) :
    ∃ k, readEntries d m closed seen base (e :: es) = .error (.problem (.unknownField l.key) "" k) := by
  have hname : Field.ofName? l.key = none := List.find?_eq_none.2 fun f _ heq => hkey f (beq_iff_eq.1 heq)
  cases he with
  | @entry k v _ =>
    refine ⟨k, ?_⟩
    simp only [readEntries, readKey, target, hname, bind, Except.bind, throw, throwThe, MonadExceptOf.throw]

/-- The entries of distinct fields set them all, and those behind them are read on. -/
theorem readEntries_lines (hes : List.Forall₂ Line.IsReadAs (fs.map (Field.line c) ++ more) es) {seen : List Field}
    (hdistinct : (fs.reverse ++ seen).Nodup) (base : Config) :
    ∃ rest, List.Forall₂ Line.IsReadAs more rest ∧
      readEntries d m closed seen base es = readEntries d m closed (fs.reverse ++ seen) (base.override c fs) rest := by
  induction fs generalizing es seen base with
  | nil => exact ⟨es, hes, rfl⟩
  | cons f fs ih =>
    obtain ⟨⟩ | ⟨he, hes⟩ := hes
    -- the first field joins those that the later ones are distinct from
    rw [List.reverse_cons, List.append_assoc, List.singleton_append] at hdistinct ⊢
    have hnew : f ∉ seen := (List.nodup_cons.1 (List.nodup_append.1 hdistinct).2.1).1
    obtain ⟨rest, hrest, hread⟩ := ih hes hdistinct (base.override c [f])
    refine ⟨rest, hrest, ?_⟩
    rw [readEntries_cons d m closed he, if_neg hnew, hread, ← override_cons]

end Entries

/-! ### Texts -/

section Texts

variable {c : Config} {fs : List Field}

/-- A document that breaks off holds no settings. -/
theorem ofDocument_of_not_whole (root : Option Node) (alone : Bool) :
    ∃ e, ofDocument ⟨root, false, alone⟩ = .error e := by
  cases h : ofDocument ⟨root, false, alone⟩ with
  | error e => exact ⟨e, rfl⟩
  | ok c =>
    simp only [ofDocument, Bool.false_eq_true, not_false_eq_true, if_true] at h
    split at h
    · obtain ⟨⟩ := h
    · obtain ⟨_, _, ⟨⟩⟩ := bind_eq_ok.1 h
    · split at h
      · split_ifs at h <;> obtain ⟨⟩ := h
      · obtain ⟨⟩ := h

theorem ofDocument_mapping (m : Mark) (es : List (Node × Node)) :
    ofDocument ⟨some (.mapping m none es true), true, true⟩ =
      readEntries ⟨some (.mapping m none es true), true, true⟩ m true [] {} es :=
  bind_pure (readEntries ⟨some (.mapping m none es true), true, true⟩ m true [] {} es)

theorem isReadable_of_mem (hpaths : c.PathsPrintable) (fs : List Field) : ∀ l ∈ fs.map (Field.line c), l.IsReadable :=
  List.forall_mem_map.2 fun f _ => f.isReadable_line hpaths

/-- The lines of distinct fields are read first, whatever follows. -/
theorem ofDocument_join (hpaths : c.PathsPrintable) (hdistinct : fs.Nodup) {more : List Line}
    (hmore : ∀ l ∈ more, l.IsReadable) (ended : Bool) :
    ∃ d m rest, List.Forall₂ Line.IsReadAs more rest ∧
      ofDocument (.ofText (Line.join ended (fs.map (Field.line c) ++ more))) =
        readEntries d m true fs.reverse (({} : Config).override c fs) rest := by
  have hread := List.forall_mem_append.2 ⟨isReadable_of_mem hpaths fs, hmore⟩
  obtain ⟨hnil, htext⟩ | ⟨m, es, hes, htext⟩ := Document.ofText_join ended hread
  · obtain ⟨hfs, rfl⟩ := List.append_eq_nil_iff.1 hnil
    obtain rfl := List.map_eq_nil_iff.1 hfs
    refine ⟨⟨none, true, true⟩, {}, [], .nil, ?_⟩
    rw [htext]
    rfl
  · let d : Document := ⟨some (.mapping m none es true), true, true⟩
    have hreversed : (fs.reverse ++ []).Nodup := by rwa [List.append_nil, List.nodup_reverse]
    obtain ⟨rest, hrest, hentries⟩ := readEntries_lines d m true hes hreversed {}
    refine ⟨d, m, rest, hrest, ?_⟩
    rw [htext, ofDocument_mapping, hentries, List.append_nil]

/-- The settings of lines with distinct fields. -/
theorem ofDocument_lines (hpaths : c.PathsPrintable) (hdistinct : fs.Nodup) (ended : Bool) :
    ofDocument (.ofText (Line.join ended (fs.map (Field.line c)))) = .ok (({} : Config).override c fs) := by
  have hnone : ∀ l ∈ ([] : List Line), l.IsReadable := nofun
  obtain ⟨d, m, rest, hrest, hread⟩ := ofDocument_join hpaths hdistinct hnone ended
  obtain ⟨⟩ := hrest
  rwa [List.append_nil] at hread

/-- A field that comes again is the fault, whatever follows. -/
theorem ofDocument_repeated (hpaths : c.PathsPrintable) (hdistinct : fs.Nodup) {f : Field} (hf : f ∈ fs)
    (more : List Field) (ended : Bool) :
    ∃ m, ofDocument (.ofText (Line.join ended ((fs ++ f :: more).map (Field.line c)))) =
      .error (.problem (.duplicateField f) "" m) := by
  have hmore := isReadable_of_mem hpaths (f :: more)
  obtain ⟨d, m, rest, hrest, hread⟩ := ofDocument_join hpaths hdistinct hmore ended
  obtain ⟨⟩ | ⟨he, _⟩ := hrest
  refine ⟨m, ?_⟩
  rw [List.map_append, hread, readEntries_cons d m true he, if_pos (List.mem_reverse.2 hf)]

/-- A key that is no field is a fault, whatever follows. -/
theorem ofDocument_unknown (hpaths : c.PathsPrintable) (hdistinct : fs.Nodup) {l : Line} (hl : l.IsWritten)
    (hkey : ∀ f : Field, f.name ≠ l.key) {more : List Line} (hmore : ∀ l ∈ more, l.IsReadable) (ended : Bool) :
    ∃ e, ofDocument (.ofText (Line.join ended (fs.map (Field.line c) ++ l :: more))) = .error e := by
  by_cases hshort : Yaml.byteSize l.key.toList ≤ 1024
  · have hread := List.forall_mem_cons.2 ⟨⟨hl, hshort⟩, hmore⟩
    obtain ⟨d, m, rest, hrest, hread⟩ := ofDocument_join hpaths hdistinct hread ended
    obtain ⟨⟩ | ⟨he, _⟩ := hrest
    obtain ⟨k, hfault⟩ := readEntries_unknown d m true he hkey fs.reverse (({} : Config).override c fs)
    exact ⟨_, hread.trans hfault⟩
  -- a key that is too long is none at all, so what stands there is no longer a mapping
  · have hwritten : ∀ x ∈ more, x.IsWritten := fun x hx => (hmore x hx).toIsWritten
    obtain ⟨m, htext⟩ | ⟨m, es, -, htext⟩ :=
      Document.ofText_tooLong ended (isReadable_of_mem hpaths fs) hwritten hl (not_le.1 hshort)
    · rw [htext]
      exact ofDocument_of_not_whole _ _
    · rw [htext]
      exact ofDocument_of_not_whole _ _

theorem parse_of_ok {text : String} (h : ofDocument (.ofText text) = .ok c) :
    parse text = match c.validate with
      | .ok () => .ok c
      | .error r => .error (.rejected r) := by
  unfold parse
  rw [h]
  show (c.validate.mapError LoadError.rejected >>= fun _ => .ok c) = _
  cases c.validate <;> rfl

theorem parse_of_error {text : String} {e : ParseError} (h : ofDocument (.ofText text) = .error e) :
    parse text = .error (.parse e) := by
  unfold parse
  rw [h]
  rfl

/-- A field put among distinct ones that has it already comes again behind distinct fields. -/
theorem exists_repeated {before after : List Field} {f : Field} (hdistinct : (before ++ after).Nodup)
    (hf : f ∈ before ++ after) :
    ∃ fs more, fs.Nodup ∧ f ∈ fs ∧ before ++ f :: after = fs ++ f :: more := by
  rcases List.mem_append.1 hf with hf | hf
  · exact ⟨before, after, (List.nodup_append.1 hdistinct).1, hf, rfl⟩
  -- the field comes again where it stood at first
  · obtain ⟨between, more, rfl⟩ := List.append_of_mem hf
    have hother : (before ++ f :: between ++ more).Nodup := by
      have hperm : (before ++ (between ++ f :: more)).Perm (before ++ f :: between ++ more) := by
        rw [List.append_assoc, List.cons_append]
        exact List.perm_middle.append_left before
      exact hperm.nodup_iff.1 hdistinct
    exact ⟨before ++ f :: between, more, (List.nodup_append.1 hother).1, by simp, by simp⟩

/-- **Settings are read field by field.**  A text with a line for each of some fields, in any order, gives the settings
that have these fields as they are written and the defaults elsewhere, if they pass the checks, and else the first check
that fails.  With one more line, for one of the fields again or for a name that is no field, it cannot be read, wherever
the line stands and whatever the values are. -/
theorem parse_lines (hpaths : c.PathsPrintable) (hdistinct : fs.Nodup) (ended : Bool) :
    (parse (Line.join ended (fs.map (Field.line c))) =
      match (({} : Config).override c fs).validate with
      | .ok () => .ok (({} : Config).override c fs)
      | .error r => .error (.rejected r)) ∧
    (∀ s : Config,
      s.validate =
        if s.version ≠ 1 then .error (.version s.version 1)
        else if s.maxCommits = 0 then .error (.invalid "max_commits must be positive")
        else if s.overviewSize.width = 0 ∨ s.overviewSize.height = 0 then
          .error (.invalid ("overview_size must be non-zero, got " ++ toString s.overviewSize.width ++ "x" ++
            toString s.overviewSize.height))
        else if s.trendSize.width = 0 ∨ s.trendSize.height = 0 then
          .error (.invalid ("trend_size must be non-zero, got " ++ toString s.trendSize.width ++ "x" ++
            toString s.trendSize.height))
        else .ok ()) ∧
    ∀ before after, before ++ after = fs.map (Field.line c) →
      (∀ f ∈ fs, ∃ m, parse (Line.join ended (before ++ f.line c :: after)) =
        .error (.parse (.problem (.duplicateField f) "" m))) ∧
      ∀ key, IsName key → (∀ f : Field, f.name ≠ key) →
        ∃ e, parse (Line.join ended (before ++ ⟨key, .number 1⟩ :: after)) = .error (.parse e) := by
  refine ⟨parse_of_ok (ofDocument_lines hpaths hdistinct ended), validate_eq, fun before after hlines => ?_⟩
  obtain ⟨fs₁, fs₂, rfl, rfl, rfl⟩ := List.map_eq_append_iff.1 hlines.symm
  constructor
  · intro f hf
    obtain ⟨distinct, more, hnodup, hf, hsplit⟩ := exists_repeated hdistinct hf
    obtain ⟨m, hfault⟩ := ofDocument_repeated hpaths hnodup hf more ended
    rw [← hsplit, List.map_append, List.map_cons] at hfault
    exact ⟨m, parse_of_error hfault⟩
  · intro key hkey hother
    have hwritten : Line.IsWritten ⟨key, .number 1⟩ := isWritten_of_isName hkey trivial
    obtain ⟨e, hfault⟩ := ofDocument_unknown hpaths (List.nodup_append.1 hdistinct).1 hwritten hother
      (isReadable_of_mem hpaths fs₂) ended
    exact ⟨e, parse_of_error hfault⟩

end Texts

section PartlySet

/-- Settings with two faults, behind a path with a blank. -/
def partlySet : Config := { docsDir := ⟨"out charts"⟩, maxCommits := 0, trendSize := ⟨0, 5⟩ }

def partlySetFields : List Field := [.trendSize, .docsDir, .maxCommits]

theorem parse_lines_partlySet :
    parse "trend_size: [0, 5]\ndocs_dir: \"out charts\"\nmax_commits: 0\n" =
      .error (.rejected (.invalid "max_commits must be positive")) ∧
    (∃ m, parse "trend_size: [0, 5]\ndocs_dir: \"out charts\"\ntrend_size: [0, 5]\nmax_commits: 0\n" =
      .error (.parse (.problem (.duplicateField .trendSize) "" m))) ∧
    ∃ e, parse "trend_size: [0, 5]\ndocs_dir: \"out charts\"\nseed: 1\nmax_commits: 0\n" = .error (.parse e) := by
  have hpaths : partlySet.PathsPrintable := by
    have hall : [partlySet.database, partlySet.docsDir, partlySet.suiteDir].all
        (fun p => p.text.toList.all fun c => decide (' ' ≤ c ∧ c ≤ '~' ∧ c ≠ '"' ∧ c ≠ '\\')) = true := by decide
    simpa only [PathsPrintable, Yaml.IsPrintable, List.all_eq_true, decide_eq_true_eq] using hall
  obtain ⟨hread, -, hmore⟩ := parse_lines hpaths (show partlySetFields.Nodup by decide) true
  obtain ⟨hrepeated, hunknown⟩ := hmore [Field.trendSize.line partlySet, Field.docsDir.line partlySet]
    [Field.maxCommits.line partlySet] rfl
  refine ⟨hread, hrepeated .trendSize (by decide), hunknown "seed" ⟨by decide, List.all_eq_true.1 rfl⟩ ?_⟩
  intro f
  cases f <;> decide

end PartlySet

end CommitCharts.Config
