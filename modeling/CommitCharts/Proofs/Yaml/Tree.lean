import CommitCharts.Proofs.Yaml.Lines
import CommitCharts.Yaml.Node.Parse

/-!
# CommitCharts.Proofs.Yaml.Tree — the tree of a text of lines

The document of a text of lines is a mapping with one entry for each line, in their order (`Document.ofText_join`).
Where a key is too long the mapping stays open behind the entries before it.
-/

namespace CommitCharts.Yaml

/-- The node of a value. -/
inductive Entry.IsReadAs : Entry → Node → Prop where
  | number {n : Nat} {m : Mark} : IsReadAs (.number n) (.scalar m none ⟨toString n, none, .plain⟩)
  | quoted {s : String} {m : Mark} : IsReadAs (.quoted s) (.scalar m none ⟨s, none, .doubleQuoted⟩)
  | pair {x y : Nat} {m a b : Mark} :
    IsReadAs (.pair x y) (.sequence m none
      [.scalar a none ⟨toString x, none, .plain⟩, .scalar b none ⟨toString y, none, .plain⟩] true)

/-- The entry of a line. -/
inductive Line.IsReadAs : Line → Node × Node → Prop where
  | entry {l : Line} {m : Mark} {v : Node} (h : l.entry.IsReadAs v) :
    IsReadAs l (.scalar m none ⟨l.key, none, .plain⟩, v)

namespace Parse

variable (handles : Handles) (fuel : Nat) {lexemes : List Lexeme}

/-- The tokens of a value are read as the value, and those behind them are left. -/
theorem node_entry (e : Entry) (hlexemes : lexemes.map (·.token) = e.tokens) (empty : Lexeme → Mark)
    (more : List Lexeme) :
    ∃ v, e.IsReadAs v ∧
      orEmpty endsBlockPart empty (node handles (fuel + 5) true true) (lexemes ++ more) = (v, some more) := by
  cases e with
  | number n =>
    simp only [Entry.tokens, List.map_eq_cons_iff, List.map_eq_nil_iff] at hlexemes
    obtain ⟨⟨_, a, b⟩, _, rfl, rfl, rfl⟩ := hlexemes
    exact ⟨_, .number, rfl⟩
  | quoted s =>
    simp only [Entry.tokens, List.map_eq_cons_iff, List.map_eq_nil_iff] at hlexemes
    obtain ⟨⟨_, a, b⟩, _, rfl, rfl, rfl⟩ := hlexemes
    exact ⟨_, .quoted, rfl⟩
  | pair x y =>
    simp only [Entry.tokens, List.map_eq_cons_iff, List.map_eq_nil_iff] at hlexemes
    obtain ⟨⟨_, a, b⟩, _, rfl, rfl, ⟨_, c, d⟩, _, rfl, rfl, ⟨_, e, f⟩, _, rfl, rfl, ⟨_, g, h⟩, _, rfl, rfl,
      ⟨_, i, j⟩, _, rfl, rfl, rfl⟩ := hlexemes
    exact ⟨_, .pair, rfl⟩

/-- A block entry put before those of the tokens behind it. -/
def consEntry (e : Node × Node) (r : List (Node × Node) × Rest) : List (Node × Node) × Rest := (e :: r.1, r.2)

/-- The entry of a line stands before the entries of the tokens behind it. -/
theorem blockEntries_line (l : Line) (hlexemes : lexemes.map (·.token) = l.tokens) (more : List Lexeme) :
    ∃ e, l.IsReadAs e ∧
      blockEntries handles (fuel + 6) (lexemes ++ more) = consEntry e (blockEntries handles (fuel + 5) more) := by
  simp only [Line.tokens, List.map_eq_cons_iff] at hlexemes
  obtain ⟨⟨_, a, b⟩, _, rfl, rfl, ⟨_, c, d⟩, _, rfl, rfl, ⟨_, e, f⟩, value, rfl, rfl, hvalue⟩ := hlexemes
  obtain ⟨v, hv, hread⟩ := node_entry handles fuel l.entry hvalue (fun _ => f) more
  let key : Node := .scalar c none ⟨l.key, none, .plain⟩
  let phrase := fun stop : Mark => orEmpty endsBlockPart (fun _ => stop) (node handles (fuel + 5) true true)
  have hentry : entry (key, some (⟨.value, e, f⟩ :: (value ++ more))) (Parse.value phrase) = ((key, v), some more) := by
    have hphrase : phrase f (value ++ more) = (v, some more) := hread
    show ((key, (phrase f (value ++ more)).1), (phrase f (value ++ more)).2) = _
    rw [hphrase]
  refine ⟨(key, v), .entry hv, ?_⟩
  show entries (entry (key, some (⟨.value, e, f⟩ :: (value ++ more))) (Parse.value phrase))
    (blockEntries handles (fuel + 5)) = _
  rw [hentry]
  rfl

/-- The entries of lines stand before those of the tokens behind them. -/
theorem blockEntries_lines {ls : List Line} (hlexemes : lexemes.map (·.token) = ls.flatMap Line.tokens)
    (more : List Lexeme) :
    ∃ es, List.Forall₂ Line.IsReadAs ls es ∧
      blockEntries handles (fuel + ls.length + 6) (lexemes ++ more) =
        (es ++ (blockEntries handles (fuel + 6) more).1, (blockEntries handles (fuel + 6) more).2) := by
  induction ls generalizing lexemes with
  | nil =>
    obtain rfl := List.map_eq_nil_iff.1 hlexemes
    exact ⟨[], .nil, rfl⟩
  | cons l ls ih =>
    rw [List.flatMap_cons, List.map_eq_append_iff] at hlexemes
    obtain ⟨first, others, rfl, hfirst, hothers⟩ := hlexemes
    obtain ⟨e, he, hread⟩ := blockEntries_line handles (fuel + ls.length + 1) l hfirst (others ++ more)
    obtain ⟨es, hes, hreads⟩ := ih hothers
    refine ⟨e :: es, .cons he hes, ?_⟩
    rw [List.append_assoc, List.length_cons]
    exact hread.trans (congrArg (consEntry e) hreads)

theorem length_le_length_flatMap (ls : List Line) : ls.length ≤ (ls.flatMap Line.tokens).length := by
  induction ls with
  | nil => exact Nat.le_refl 0
  | cons l ls ih =>
    rw [List.flatMap_cons, List.length_append, List.length_cons, Line.tokens, List.length_cons]
    omega

/-- A mapping of lines at the start of the tokens is the root: the entries of the lines, and those of the tokens behind
them. -/
theorem root_lines {ls : List Line} (m stop : Mark) (hlexemes : lexemes.map (·.token) = ls.flatMap Line.tokens)
    (more : List Lexeme) :
    ∃ handles fuel es, List.Forall₂ Line.IsReadAs ls es ∧
      root (⟨.blockMappingStart, m, stop⟩ :: (lexemes ++ more)) =
        (.mapping m none (es ++ (blockEntries handles (fuel + 6) more).1)
          (blockEntries handles (fuel + 6) more).2.isSome, (blockEntries handles (fuel + 6) more).2) := by
  let handles : Handles := [("!", "!"), ("!!", "tag:yaml.org,2002:")]
  let ts : List Lexeme := ⟨.blockMappingStart, m, stop⟩ :: (lexemes ++ more)
  have hlength : ls.length ≤ lexemes.length := by
    have hflat := length_le_length_flatMap ls
    rwa [← hlexemes, List.length_map] at hflat
  obtain ⟨fuel, hfuel⟩ : ∃ fuel, Parse.fuel ts = fuel + ls.length + 6 + 1 := by
    refine ⟨Parse.fuel ts - (ls.length + 7), ?_⟩
    simp only [Parse.fuel, ts, List.length_cons, List.length_append]
    omega
  obtain ⟨es, hes, hread⟩ := blockEntries_lines handles fuel hlexemes more
  refine ⟨handles, fuel, es, hes, ?_⟩
  have hroot : root ts = node handles (Parse.fuel ts) true false ts := if_pos rfl
  have hnode : node handles (fuel + ls.length + 6 + 1) true false ts =
    (.mapping m none (blockEntries handles (fuel + ls.length + 6) (lexemes ++ more)).1
      (blockEntries handles (fuel + ls.length + 6) (lexemes ++ more)).2.isSome,
      (blockEntries handles (fuel + ls.length + 6) (lexemes ++ more)).2) := rfl
  rw [hread] at hnode
  rw [hroot, hfuel, hnode]

end Parse

/-! ### Documents -/

namespace Document

open Parse

variable {lexemes : List Lexeme} {ls : List Line}

theorem ofLexemes_of_root {t : Lexeme} (ht : t.token ≠ .streamEnd) (ts : List Lexeme) :
    ofLexemes (t :: ts) =
      let (node, rest) := Parse.root (t :: ts)
      match rest with
      | some (u :: us) => ⟨some node, true, isLast (u :: us)⟩
      | _ => ⟨some node, false, false⟩ := by
  unfold ofLexemes
  split
  · rename_i hend
    exact absurd (congrArg Lexeme.token (List.cons.inj hend).1) ht
  · rfl

/-- The lines of a mapping that is closed before the end of the stream. -/
theorem ofLexemes_lines (h : lexemes.map (·.token) =
      .blockMappingStart :: ls.flatMap Line.tokens ++ [.blockEnd, .streamEnd]) :
    ∃ m es, List.Forall₂ Line.IsReadAs ls es ∧
      ofLexemes lexemes = ⟨some (.mapping m none es true), true, true⟩ := by
  rw [List.cons_append, List.map_eq_cons_iff] at h
  obtain ⟨⟨_, m, stop⟩, tail, rfl, rfl, htail⟩ := h
  obtain ⟨lines, more, rfl, hlines, hmore⟩ := List.map_eq_append_iff.1 htail
  simp only [List.map_eq_cons_iff, List.map_eq_nil_iff] at hmore
  obtain ⟨⟨_, a, b⟩, _, rfl, rfl, ⟨_, c, d⟩, _, rfl, rfl, rfl⟩ := hmore
  obtain ⟨handles, fuel, es, hes, hroot⟩ := root_lines m stop hlines [⟨.blockEnd, a, b⟩, ⟨.streamEnd, c, d⟩]
  have hend : blockEntries handles (fuel + 6) [⟨.blockEnd, a, b⟩, ⟨.streamEnd, c, d⟩] =
    ([], some [⟨.streamEnd, c, d⟩]) := rfl
  rw [hend, List.append_nil] at hroot
  refine ⟨m, es, hes, (ofLexemes_of_root (by rintro ⟨⟩) _).trans ?_⟩
  rw [hroot]
  rfl

/-- The lines of a mapping that breaks off. -/
theorem ofLexemes_open (h : lexemes.map (·.token) = .blockMappingStart :: ls.flatMap Line.tokens) :
    ∃ m es, List.Forall₂ Line.IsReadAs ls es ∧
      ofLexemes lexemes = ⟨some (.mapping m none es false), false, false⟩ := by
  rw [List.map_eq_cons_iff] at h
  obtain ⟨⟨_, m, stop⟩, lines, rfl, rfl, hlines⟩ := h
  obtain ⟨handles, fuel, es, hes, hroot⟩ := root_lines m stop hlines []
  have hend : blockEntries handles (fuel + 6) [] = ([], none) := rfl
  rw [hend, List.append_nil, List.append_nil] at hroot
  refine ⟨m, es, hes, (ofLexemes_of_root (by rintro ⟨⟩) _).trans ?_⟩
  rw [hroot]
  rfl

/-- **The document of lines** is a mapping with an entry for each of them; without lines it is empty. -/
theorem ofText_join (ended : Bool) (hls : ∀ l ∈ ls, l.IsReadable) :
    (ls = [] ∧ ofText (Line.join ended ls) = ⟨none, true, true⟩) ∨
      ∃ m es, List.Forall₂ Line.IsReadAs ls es ∧
        ofText (Line.join ended ls) = ⟨some (.mapping m none es true), true, true⟩ := by
  have htokens := Lexeme.tokens_ofText ended hls
  cases ls with
  | nil =>
    simp only [Scanner.linesTokens, Scanner.linesIndents, List.isEmpty_nil, if_true, List.map_nil, List.nil_append,
      List.map_eq_cons_iff, List.map_eq_nil_iff] at htokens
    obtain ⟨⟨_, a, b⟩, _, hlexemes, rfl, rfl⟩ := htokens
    exact .inl ⟨rfl, congrArg ofLexemes hlexemes⟩
  | cons l ls => exact .inr (ofLexemes_lines htokens)

/-- **A key that is too long** breaks the document off: only the lines before it are entries, and the key itself is the
whole document where it stands on the first line. -/
theorem ofText_tooLong (ended : Bool) {more : List Line} {l : Line} (hls : ∀ l ∈ ls, l.IsReadable)
    (hmore : ∀ l ∈ more, l.IsWritten) (hl : l.IsWritten) (hlong : 1024 < byteSize l.key.toList) :
    (∃ m, ofText (Line.join ended (ls ++ l :: more)) =
        ⟨some (.scalar m none ⟨l.key, none, .plain⟩), false, false⟩) ∨
      ∃ m es, List.Forall₂ Line.IsReadAs ls es ∧
        ofText (Line.join ended (ls ++ l :: more)) = ⟨some (.mapping m none es false), false, false⟩ := by
  have htokens := Lexeme.tokens_ofText_tooLong ended hls hmore hl hlong
  cases ls with
  | nil =>
    simp only [List.isEmpty_nil, if_true, List.map_eq_cons_iff, List.map_eq_nil_iff] at htokens
    obtain ⟨⟨_, a, b⟩, _, hlexemes, rfl, rfl⟩ := htokens
    exact .inl ⟨a, congrArg ofLexemes hlexemes⟩
  | cons first others => exact .inr (ofLexemes_open htokens)

end Document

end CommitCharts.Yaml
