import CommitCharts.Proofs.Yaml.Scalar
import CommitCharts.Yaml.Token.Scan

/-!
# CommitCharts.Proofs.Yaml.Step — one token after another

What the scanner does at each token of a line `key: value` (`Scanner.step?_key`, `Scanner.step?_colon`,
`Scanner.step?_number`, `Scanner.step?_quoted`, `Scanner.step?_open` and so on).  A scanner is given by what is left
of the text, the tokens so far, last token first, and the places of keys.
-/

namespace CommitCharts.Yaml.Scanner

/-! ### White space and places of keys -/

/-- The text goes on with something else than white space or a comment, or ends. -/
def Stops (rest : List Char) : Prop := ∀ c ∈ rest.head?, isGap c = false ∧ c ≠ '#' ∧ c ≠ '\ufeff'

theorem skip_of_stops {rest : List Char} (h : Stops rest) (block allowed : Bool) (m : Mark) :
    skip block false allowed m rest = (allowed, ⟨m, rest⟩) := by
  cases rest with
  | nil => rfl
  | cons c rest =>
    obtain ⟨hgap, hcomment, hmark⟩ := h c rfl
    have hbreak := isBreak_of_isGap hgap
    have hblank : isBlank c = false := (Bool.or_eq_false_iff.1 hgap).1
    simp only [isBlank, Bool.or_eq_false_iff, beq_eq_false_iff_ne] at hblank
    rw [skip, hbreak]
    simp [hblank, hcomment, hmark]

variable {s t u v : Scanner} {c : Char} {cs : List Char}

theorem skipGap_eq {allowed : Bool} {k : Cursor}
    (h : skip (!s.inFlow) false s.keyAllowed s.mark s.cursor.rest = (allowed, k)) :
    s.skipGap = { s with cursor := k, keyAllowed := allowed } := by
  unfold skipGap
  rw [h]

/-- A step from where white space ends, with no stale place of a key and no collection to close. -/
theorem step?_eq (hskip : s.skipGap = t) (hstale : t.dropStale? = some t) (hclose : t.closeTo t.mark.column = t)
    (hrest : t.cursor.rest = c :: cs) (hnext : t.next c cs = some u) (hfresh : u.dropStale? = some v) :
    s.step? false = some (v, false) := by
  unfold step?
  simp [hskip, hstale, canSee, hclose, hrest, hnext, hfresh]

/-- The lines stand at the margin, so that nothing closes their mapping. -/
theorem closeTo_eq (h : s.indents = [] ∨ s.indents = [0]) : s.closeTo s.mark.column = s := by
  have hkept : s.indents.takeWhile (s.mark.column < ·) = [] ∧ s.indents.dropWhile (s.mark.column < ·) = s.indents := by
    obtain hindents | hindents := h <;> simp [hindents]
  unfold closeTo closeWhile
  rw [hkept.1, hkept.2]
  split <;> rfl

/-- As long as no place is stale, all are kept. -/
theorem dropStale?_eq (h : ∀ k ∈ s.key :: s.outer, k.any s.isStale = false) : s.dropStale? = some s := by
  have hkey := h s.key List.mem_cons_self
  have hall : ((s.key :: s.outer).all fun k => !(k.any s.isStale) || isFree k) = true := by
    rw [List.all_eq_true]
    intro k hk
    rw [h k hk]
    rfl
  have houter : s.outer.map (fun k => if k.any s.isStale = true then none else k) = s.outer := by
    refine (List.map_congr_left fun k hk => ?_).trans (List.map_id s.outer)
    rw [h k (List.mem_cons_of_mem _ hk)]
    rfl
  have hkept : (if s.key.any s.isStale = true then none else s.key) = s.key := by
    rw [hkey]
    rfl
  unfold dropStale?
  dsimp only
  rw [if_pos hall, houter, hkept]

/-! ### The token that comes next -/

theorem isDocumentMark_eq_false (hhyphen : c ≠ '-') (hdot : c ≠ '.') (cs : List Char) :
    isDocumentMark (c :: cs) = false := by
  unfold isDocumentMark
  split
  · rename_i h
    exact absurd (List.cons.inj h).1 hhyphen
  · rename_i h
    exact absurd (List.cons.inj h).1 hdot
  · rfl

/-- A character of words begins a plain scalar. -/
theorem next_plain (hc : isPlainChar c = true) (cs : List Char) : s.next c cs = s.plain := by
  obtain ⟨hgap, hother⟩ := isPlainChar_iff.1 hc
  simp only [indicators, List.mem_cons, List.not_mem_nil, or_false, not_or] at hother
  have hmark := isDocumentMark_eq_false hother.1 hother.2.1 cs
  have hstarts : Plain.startsWith s.inFlow c cs = true := by
    simp [Plain.startsWith, isFlowIndicator, hgap, hother]
  unfold next
  simp [hmark, hstarts, hother]

theorem next_colon (rest : List Char) : s.next ':' (' ' :: rest) = s.valueIndicator := by
  have hgap : atGap (' ' :: rest) = true := rfl
  simp [next, isDocumentMark, hgap]

theorem next_quote (rest : List Char) : s.next '"' rest = s.quoted true := by
  simp [next, isDocumentMark]

theorem next_open (rest : List Char) : s.next '[' rest = s.flowStart .flowSequenceStart := by
  simp [next, isDocumentMark]

theorem next_close (rest : List Char) : s.next ']' rest = s.flowEnd .flowSequenceEnd := by
  simp [next, isDocumentMark]

theorem next_comma (rest : List Char) : s.next ',' rest = s.flowEntry := by
  simp [next, isDocumentMark]

/-! ### Keys -/

/-- At the start of a line, where a key may begin. -/
def atLine (m : Mark) (rest : List Char) (tokens : List Lexeme) (indents : List Nat) : Scanner :=
  ⟨⟨m, rest⟩, tokens, indents, true, none, []⟩

/-- Behind the colon of a line or behind its value. -/
def inLine (m : Mark) (rest : List Char) (tokens : List Lexeme) : Scanner :=
  ⟨⟨m, rest⟩, tokens, [0], false, none, []⟩

/-- Between brackets, where an item may begin. -/
def inBrackets (m : Mark) (rest : List Char) (tokens : List Lexeme) : Scanner :=
  ⟨⟨m, rest⟩, tokens, [0], true, none, [none]⟩

/-- Behind a plain scalar that may turn out to be a key. -/
def behindWord (m : Mark) (rest : List Char) (tokens : List Lexeme) (indents : List Nat) (k : KeyPlace)
    (outer : List (Option KeyPlace)) : Scanner :=
  ⟨⟨m, rest⟩, tokens, indents, false, some k, outer⟩

section Keys

variable {m : Mark} {word rest : List Char} {tokens : List Lexeme} {indents : List Nat}

/-- Behind a value, where no place of a key is open. -/
theorem dropStale?_inLine : (inLine m rest tokens).dropStale? = some (inLine m rest tokens) := by
  refine dropStale?_eq ?_
  simp [inLine]

theorem dropStale?_inBrackets : (inBrackets m rest tokens).dropStale? = some (inBrackets m rest tokens) := by
  refine dropStale?_eq ?_
  simp [inBrackets]

/-- A key that begins at the place may end at the mark. -/
def Fresh (k : KeyPlace) (m : Mark) : Prop := m.line ≤ k.mark.line ∧ m.index ≤ k.mark.index + 1024

theorem isStale_eq_false_iff {k : KeyPlace} : s.isStale k = false ↔ Fresh k s.mark := by
  simp [isStale, Fresh]

theorem foldl_advance_word (hword : ∀ c ∈ word, isPlainChar c = true) (m : Mark) :
    word.foldl Mark.advance m = ⟨m.index + byteSize word, m.line, m.column + word.length⟩ :=
  Mark.foldl_advance (fun c hc => isBreak_of_isGap (isPlainChar_iff.1 (hword c hc)).1) m

/-- A key may be as long as 1024 bytes. -/
theorem fresh_word_iff (hword : ∀ c ∈ word, isPlainChar c = true) {k : KeyPlace} (hkey : k.mark = m) :
    Fresh k (word.foldl Mark.advance m) ↔ byteSize word ≤ 1024 := by
  rw [foldl_advance_word hword, Fresh, hkey]
  simp

theorem dropStale?_behindWord {k : KeyPlace} {outer : List (Option KeyPlace)} (hfresh : Fresh k m)
    (houter : ∀ o ∈ outer, o = none) :
    (behindWord m rest tokens indents k outer).dropStale? = some (behindWord m rest tokens indents k outer) := by
  refine dropStale?_eq ?_
  intro o ho
  obtain rfl | ho := List.mem_cons.1 ho
  · exact isStale_eq_false_iff.2 hfresh
  · rw [houter o ho]
    rfl

theorem plain_key (hword : ∀ c ∈ word, isPlainChar c = true) (m : Mark) (rest : List Char) (tokens : List Lexeme)
    (indents : List Nat) :
    (atLine m (word ++ ':' :: ' ' :: rest) tokens indents).plain =
      some (behindWord (word.foldl Mark.advance m) (':' :: ' ' :: rest)
        (⟨.scalar (String.ofList word) .plain, m, word.foldl Mark.advance m⟩ :: tokens) indents
        ⟨tokens.length, indents.head? == some m.column, m⟩ []) := by
  have hscan (floor : Nat) : Plain.scan false floor ⟨[], .empty⟩ m (word ++ ':' :: ' ' :: rest) = _ :=
    (Plain.scan_word hword [] m _).trans (Plain.scan_colon _ _ rest)
  unfold plain
  show (Plain.scan false _ ⟨[], .empty⟩ m (word ++ ':' :: ' ' :: rest) >>= _) = _
  rw [hscan]
  simp [Draft.chars]
  rfl

theorem step?_key (hskip : s.skipGap = atLine m (word ++ ':' :: ' ' :: rest) tokens indents)
    (hword : ∀ c ∈ word, isPlainChar c = true) (hne : word ≠ []) (hsize : byteSize word ≤ 1024)
    (hindents : indents = [] ∨ indents = [0]) :
    s.step? false = some (behindWord (word.foldl Mark.advance m) (':' :: ' ' :: rest)
      (⟨.scalar (String.ofList word) .plain, m, word.foldl Mark.advance m⟩ :: tokens) indents
      ⟨tokens.length, indents.head? == some m.column, m⟩ [], false) := by
  have hplain := plain_key hword m rest tokens indents
  have hfresh : Fresh ⟨tokens.length, indents.head? == some m.column, m⟩ (word.foldl Mark.advance m) :=
    (fresh_word_iff hword rfl).2 hsize
  obtain ⟨c, cs, rfl⟩ := List.exists_cons_of_ne_nil hne
  refine step?_eq hskip (dropStale?_eq ?_) (closeTo_eq hindents) rfl
    ((next_plain (hword c List.mem_cons_self) _).trans hplain) (dropStale?_behindWord hfresh (List.forall_mem_nil _))
  simp [atLine]

/-- The token that opens a block mapping, if none is open. -/
def opening (indents : List Nat) (m : Mark) : List Lexeme :=
  if indents.isEmpty then [⟨.blockMappingStart, m, m⟩] else []

/-- The colon makes the word before it a key. -/
theorem valueIndicator_behindWord {m₁ : Mark} {scalar : Lexeme} {required : Bool} (hcolumn : m.column = 0)
    (hindents : indents = [] ∨ indents = [0]) :
    (behindWord m₁ (':' :: rest) (scalar :: tokens) indents ⟨tokens.length, required, m⟩ []).valueIndicator =
      some (inLine (m₁.advance ':') rest
        (⟨.value, m₁, m₁.advance ':'⟩ :: scalar :: ⟨.key, m, m⟩ :: (opening indents m ++ tokens))) := by
  have hlater : tokens.length + 1 + 1 - tokens.length = 2 := by omega
  obtain rfl | rfl := hindents <;>
    simp [valueIndicator, behindWord, insert, indent, inFlow, floor, hcolumn, take, emit, inLine, Cursor.drop, opening,
      mark, hlater]

theorem step?_colon {m₁ : Mark} {required : Bool} (hcolumn : m.column = 0) (hindents : indents = [] ∨ indents = [0])
    (hfresh : Fresh ⟨tokens.length, required, m⟩ m₁) (scalar : Lexeme) (rest : List Char) :
    (behindWord m₁ (':' :: ' ' :: rest) (scalar :: tokens) indents ⟨tokens.length, required, m⟩ []).step? false =
      some (inLine (m₁.advance ':') (' ' :: rest)
        (⟨.value, m₁, m₁.advance ':'⟩ :: scalar :: ⟨.key, m, m⟩ :: (opening indents m ++ tokens)), false) := by
  exact step?_eq (skipGap_eq rfl) (dropStale?_behindWord hfresh (List.forall_mem_nil _)) (closeTo_eq hindents) rfl
    ((next_colon rest).trans (valueIndicator_behindWord hcolumn hindents)) dropStale?_inLine

/-! ### Keys that are too long -/

/-- No step is made at a token that cannot be scanned, or behind which a key that is needed would be too long. -/
theorem step?_eq_none (hskip : s.skipGap = t) (hstale : t.dropStale? = some t) (hclose : t.closeTo t.mark.column = t)
    (hrest : t.cursor.rest = c :: cs) (hnext : (t.next c cs).bind dropStale? = none) : s.step? false = none := by
  unfold step?
  cases hu : t.next c cs with
  | none => simp [hskip, hstale, canSee, hclose, hrest, hu]
  | some u =>
    rw [hu, Option.bind_some] at hnext
    simp [hskip, hstale, canSee, hclose, hrest, hu, hnext]

theorem dropStale?_atLine : (atLine m rest tokens indents).dropStale? = some (atLine m rest tokens indents) := by
  refine dropStale?_eq ?_
  simp [atLine]

/-- A place of a key that went stale is given up, unless it is needed. -/
theorem dropStale?_stale {k : KeyPlace} (hstale : ¬ Fresh k m) :
    (behindWord m rest tokens indents k []).dropStale? =
      if k.required then none else some ⟨⟨m, rest⟩, tokens, indents, false, none, []⟩ := by
  have hk : (behindWord m rest tokens indents k []).isStale k = true := by
    rw [← Bool.not_eq_false, isStale_eq_false_iff]
    exact hstale
  unfold dropStale?
  simp only [behindWord] at hk ⊢
  cases hrequired : k.required <;> simp [isFree, hk, hrequired]

/-- On a line behind others only a key can stand, and a word that is too long is none. -/
theorem step?_key_tooLong (hskip : s.skipGap = atLine m (word ++ ':' :: ' ' :: rest) tokens [0])
    (hcolumn : m.column = 0) (hword : ∀ c ∈ word, isPlainChar c = true) (hne : word ≠ [])
    (hsize : 1024 < byteSize word) : s.step? false = none := by
  have hplain := plain_key hword m rest tokens [0]
  have hstale : ¬ Fresh ⟨tokens.length, [0].head? == some m.column, m⟩ (word.foldl Mark.advance m) :=
    fun hfresh => absurd ((fresh_word_iff hword rfl).1 hfresh) (Nat.not_le.2 hsize)
  obtain ⟨d, ds, rfl⟩ := List.exists_cons_of_ne_nil hne
  refine step?_eq_none hskip dropStale?_atLine (closeTo_eq (.inr rfl)) rfl ?_
  rw [next_plain (hword d List.mem_cons_self)]
  show (atLine m (d :: ds ++ ':' :: ' ' :: rest) tokens [0]).plain.bind dropStale? = none
  rw [hplain, Option.bind_some, dropStale?_stale hstale, hcolumn]
  rfl

/-- On the first line such a word is given up as a key. -/
theorem step?_key_givenUp (hskip : s.skipGap = atLine m (word ++ ':' :: ' ' :: rest) tokens [])
    (hword : ∀ c ∈ word, isPlainChar c = true) (hne : word ≠ []) (hsize : 1024 < byteSize word) :
    s.step? false = some (⟨⟨word.foldl Mark.advance m, ':' :: ' ' :: rest⟩,
      ⟨.scalar (String.ofList word) .plain, m, word.foldl Mark.advance m⟩ :: tokens, [], false, none, []⟩, false) := by
  have hplain := plain_key hword m rest tokens []
  have hstale : ¬ Fresh ⟨tokens.length, [].head? == some m.column, m⟩ (word.foldl Mark.advance m) :=
    fun hfresh => absurd ((fresh_word_iff hword rfl).1 hfresh) (Nat.not_le.2 hsize)
  obtain ⟨d, ds, rfl⟩ := List.exists_cons_of_ne_nil hne
  exact step?_eq hskip dropStale?_atLine (closeTo_eq (.inl rfl)) rfl
    ((next_plain (hword d List.mem_cons_self) _).trans hplain) (dropStale?_stale hstale)

/-- A colon without a key before it. -/
theorem step?_colon_keyless :
    (⟨⟨m, ':' :: ' ' :: rest⟩, tokens, [], false, none, []⟩ : Scanner).step? false = none := by
  have hskip : (⟨⟨m, ':' :: ' ' :: rest⟩, tokens, [], false, none, []⟩ : Scanner).skipGap =
    ⟨⟨m, ':' :: ' ' :: rest⟩, tokens, [], false, none, []⟩ := skipGap_eq rfl
  refine step?_eq_none hskip (dropStale?_eq (by simp)) (closeTo_eq (.inl rfl)) rfl ?_
  rw [next_colon]
  rfl

end Keys

/-! ### Values -/

section Values

variable {m : Mark} {word rest : List Char} {tokens : List Lexeme}

/-- The blank behind a colon is skipped. -/
theorem skipGap_inLine (hrest : Stops rest) :
    (inLine m (' ' :: rest) tokens).skipGap = inLine (m.advance ' ') rest tokens :=
  skipGap_eq (skip_of_stops hrest true false (m.advance ' '))

theorem stops_cons {c : Char} (h : isGap c = false ∧ c ≠ '#' ∧ c ≠ '\ufeff') (rest : List Char) :
    Stops (c :: rest) := by
  rintro _ ⟨⟩
  exact h

theorem step?_quoted (hword : ∀ c ∈ word, IsPrintable c) (m : Mark) (rest : List Char) (tokens : List Lexeme) :
    (inLine m (' ' :: '"' :: (word ++ '"' :: rest)) tokens).step? false =
      some (inLine (('"' :: (word ++ ['"'])).foldl Mark.advance (m.advance ' ')) rest
        (⟨.scalar (String.ofList word) .doubleQuoted, m.advance ' ',
          ('"' :: (word ++ ['"'])).foldl Mark.advance (m.advance ' ')⟩ :: tokens), false) := by
  have hscan : Quoted.scan true ⟨[], .empty⟩ .nothing ((m.advance ' ').advance '"') (word ++ '"' :: rest) = _ :=
    Quoted.scan_printable hword [] [] (Nat.succ_pos _) rest
  have hquoted : (inLine (m.advance ' ') ('"' :: (word ++ '"' :: rest)) tokens).quoted true =
      some (inLine (('"' :: (word ++ ['"'])).foldl Mark.advance (m.advance ' ')) rest
        (⟨.scalar (String.ofList word) .doubleQuoted, m.advance ' ',
          ('"' :: (word ++ ['"'])).foldl Mark.advance (m.advance ' ')⟩ :: tokens)) := by
    unfold quoted
    show (Quoted.scan true ⟨[], .empty⟩ .nothing ((m.advance ' ').advance '"') (word ++ '"' :: rest) >>= _) = _
    rw [hscan]
    rfl
  exact step?_eq (skipGap_inLine (stops_cons (by decide) _)) dropStale?_inLine
    (closeTo_eq (.inr rfl)) rfl ((next_quote _).trans hquoted) dropStale?_inLine

theorem stops_word (hword : ∀ c ∈ word, isPlainChar c = true) (hne : word ≠ []) (rest : List Char) :
    Stops (word ++ rest) := by
  obtain ⟨c, cs, rfl⟩ := List.exists_cons_of_ne_nil hne
  obtain ⟨hgap, hother⟩ := isPlainChar_iff.1 (hword c List.mem_cons_self)
  simp only [indicators, List.mem_cons, List.not_mem_nil, or_false, not_or] at hother
  exact stops_cons ⟨hgap, by simp [hother], by simp [hother]⟩ (cs ++ rest)

/-- A number up to the end of the line, which is part of the white space behind it. -/
theorem step?_number {d : Draft} {k : Cursor} (hword : ∀ c ∈ word, isPlainChar c = true) (hne : word ≠ [])
    (hscan :
      Plain.scan false 1 ⟨word.reverse ++ [], .empty⟩ (word.foldl Mark.advance (m.advance ' ')) rest = some (d, k))
    (tokens : List Lexeme) :
    (inLine m (' ' :: (word ++ rest)) tokens).step? false =
      some (⟨k, ⟨.scalar (String.ofList d.chars) .plain, m.advance ' ', k.mark⟩ :: tokens, [0], d.gap.isLines, none,
        []⟩, false) := by
  have hplain : (inLine (m.advance ' ') (word ++ rest) tokens).plain =
      some ⟨k, ⟨.scalar (String.ofList d.chars) .plain, m.advance ' ', k.mark⟩ :: tokens, [0], d.gap.isLines, none,
        []⟩ := by
    unfold plain
    show (Plain.scan false 1 ⟨[], .empty⟩ (m.advance ' ') (word ++ rest) >>= _) = _
    rw [Plain.scan_word hword, hscan]
    rfl
  have hstops := stops_word hword hne rest
  obtain ⟨c, cs, rfl⟩ := List.exists_cons_of_ne_nil hne
  refine step?_eq (skipGap_inLine hstops) dropStale?_inLine (closeTo_eq (.inr rfl)) rfl
    ((next_plain (hword c List.mem_cons_self) _).trans hplain) (dropStale?_eq ?_)
  simp

/-! ### Sizes -/

/-- An opening bracket behind a blank. -/
theorem step?_open (m : Mark) (rest : List Char) (tokens : List Lexeme) :
    (inLine m (' ' :: '[' :: rest) tokens).step? false =
      some (inBrackets ((m.advance ' ').advance '[') rest
        (⟨.flowSequenceStart, m.advance ' ', (m.advance ' ').advance '['⟩ :: tokens), false) := by
  refine step?_eq (skipGap_inLine (stops_cons (by decide) rest)) dropStale?_inLine (closeTo_eq (.inr rfl)) rfl
    ((next_open rest).trans ?_) dropStale?_inBrackets
  rfl

/-- An item up to a comma or a bracket. -/
theorem step?_item {c : Char} (hskip : s.skipGap = inBrackets m (word ++ c :: rest) tokens)
    (hword : ∀ c ∈ word, isPlainChar c = true) (hne : word ≠ []) (hsize : byteSize word ≤ 1024)
    (hgap : isGap c = false) (hc : isFlowIndicator c = true) :
    s.step? false = some (behindWord (word.foldl Mark.advance m) (c :: rest)
      (⟨.scalar (String.ofList word) .plain, m, word.foldl Mark.advance m⟩ :: tokens) [0]
      ⟨tokens.length, false, m⟩ [none], false) := by
  have hscan : Plain.scan true 1 ⟨[], .empty⟩ m (word ++ c :: rest) = _ :=
    (Plain.scan_word hword [] m _).trans (Plain.scan_flowIndicator hgap hc _ _ rest)
  have hplain : (inBrackets m (word ++ c :: rest) tokens).plain =
      some (behindWord (word.foldl Mark.advance m) (c :: rest)
        (⟨.scalar (String.ofList word) .plain, m, word.foldl Mark.advance m⟩ :: tokens) [0]
        ⟨tokens.length, false, m⟩ [none]) := by
    unfold plain
    show (Plain.scan true 1 ⟨[], .empty⟩ m (word ++ c :: rest) >>= _) = _
    rw [hscan]
    simp [Draft.chars]
    rfl
  have hfresh : Fresh ⟨tokens.length, false, m⟩ (word.foldl Mark.advance m) := (fresh_word_iff hword rfl).2 hsize
  obtain ⟨d, ds, rfl⟩ := List.exists_cons_of_ne_nil hne
  refine step?_eq hskip dropStale?_inBrackets (closeTo_eq (.inr rfl)) rfl
    ((next_plain (hword d List.mem_cons_self) _).trans hplain) (dropStale?_behindWord hfresh ?_)
  simp

/-- The comma between two items. -/
theorem step?_comma {k : KeyPlace} (hrequired : k.required = false) (hfresh : Fresh k m) (rest : List Char)
    (tokens : List Lexeme) :
    (behindWord m (',' :: rest) tokens [0] k [none]).step? false =
      some (inBrackets (m.advance ',') rest (⟨.flowEntry, m, m.advance ','⟩ :: tokens), false) := by
  have hentry : (behindWord m (',' :: rest) tokens [0] k [none]).flowEntry =
      some (inBrackets (m.advance ',') rest (⟨.flowEntry, m, m.advance ','⟩ :: tokens)) := by
    simp [flowEntry, dropKey, isFree, behindWord, hrequired, take, emit, inBrackets, Cursor.drop, mark]
  have hskip : (behindWord m (',' :: rest) tokens [0] k [none]).skipGap =
      behindWord m (',' :: rest) tokens [0] k [none] := skipGap_eq rfl
  refine step?_eq hskip (dropStale?_behindWord hfresh ?_) (closeTo_eq (.inr rfl)) rfl
    ((next_comma _).trans hentry) dropStale?_inBrackets
  simp

/-- The bracket behind the last item. -/
theorem step?_close {k : KeyPlace} (hrequired : k.required = false) (hfresh : Fresh k m) (rest : List Char)
    (tokens : List Lexeme) :
    (behindWord m (']' :: rest) tokens [0] k [none]).step? false =
      some (inLine (m.advance ']') rest (⟨.flowSequenceEnd, m, m.advance ']'⟩ :: tokens), false) := by
  have hend : (behindWord m (']' :: rest) tokens [0] k [none]).flowEnd .flowSequenceEnd =
      some (inLine (m.advance ']') rest (⟨.flowSequenceEnd, m, m.advance ']'⟩ :: tokens)) := by
    simp [flowEnd, dropKey, isFree, behindWord, hrequired, take, emit, inLine, Cursor.drop, mark]
  have hskip : (behindWord m (']' :: rest) tokens [0] k [none]).skipGap =
      behindWord m (']' :: rest) tokens [0] k [none] := skipGap_eq rfl
  refine step?_eq hskip (dropStale?_behindWord hfresh ?_) (closeTo_eq (.inr rfl)) rfl
    ((next_close _).trans hend) dropStale?_inLine
  simp

end Values

/-! ### The end of the text -/

theorem delivered_of_keyless (hkey : s.key = none) (houter : s.outer = []) : s.delivered = s.tokens.reverse := by
  have hwhole : s.tokens.reverse.take s.tokens.length = s.tokens.reverse := List.take_of_length_le (by simp)
  simp [delivered, hkey, houter, hwhole]

/-- The last step closes the mapping and ends the stream. -/
theorem step?_end {m : Mark} {tokens : List Lexeme} {indents : List Nat} {allowed : Bool}
    (hskip : s.skipGap = ⟨⟨m, []⟩, tokens, indents, allowed, none, []⟩) (hindents : indents = [] ∨ indents = [0]) :
    ∃ t closing, s.step? false = some (t, true) ∧ t.delivered = tokens.reverse ++ closing ∧
      closing.map (·.token) = indents.map (fun _ => .blockEnd) ++ [.streamEnd] := by
  have hstale : (⟨⟨m, []⟩, tokens, indents, allowed, none, []⟩ : Scanner).dropStale? =
    some ⟨⟨m, []⟩, tokens, indents, allowed, none, []⟩ := dropStale?_eq (by simp)
  have hclose := closeTo_eq (s := ⟨⟨m, []⟩, tokens, indents, allowed, none, []⟩) hindents
  let final : Mark := if m.column = 0 then m else ⟨m.index, m.line + 1, 0⟩
  let closing : List Lexeme := indents.map (fun _ => ⟨.blockEnd, final, final⟩) ++ [⟨.streamEnd, final, final⟩]
  have hend : (⟨⟨m, []⟩, tokens, indents, allowed, none, []⟩ : Scanner).streamEnd =
      some ⟨⟨final, []⟩, closing.reverse ++ tokens, [], allowed, none, []⟩ := by
    obtain rfl | rfl := hindents <;> rfl
  refine ⟨⟨⟨final, []⟩, closing.reverse ++ tokens, [], allowed, none, []⟩, closing, ?_, ?_, ?_⟩
  · have hfresh : (⟨⟨final, []⟩, closing.reverse ++ tokens, [], allowed, none, []⟩ : Scanner).dropStale? =
      some ⟨⟨final, []⟩, closing.reverse ++ tokens, [], allowed, none, []⟩ := dropStale?_eq (by simp)
    unfold step?
    simp [hskip, hstale, canSee, hclose, hend, hfresh]
  · rw [delivered_of_keyless rfl rfl, List.reverse_append, List.reverse_reverse]
  · simp [closing]

end CommitCharts.Yaml.Scanner
