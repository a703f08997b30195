import CommitCharts.Proofs.Yaml.Line
import CommitCharts.Proofs.Yaml.Step
import Mathlib.Logic.Relation

/-!
# CommitCharts.Proofs.Yaml.Lines — lines scanned one after another

Each line has tokens of its own whatever stands around it, so that lines are scanned one after another
(`Scanner.lines_lead`), up to the end of the text (`Lexeme.tokens_ofText`) or to a key that is too long
(`Lexeme.tokens_ofText_tooLong`).
-/

namespace CommitCharts.Yaml

namespace Scanner

/-! ### Runs -/

/-- One token more, and less of the text. -/
def Step (s t : Scanner) : Prop := s.step? false = some (t, false) ∧ t.cursor.rest.length < s.cursor.rest.length

/-- Some tokens more. -/
abbrev Leads : Scanner → Scanner → Prop := Relation.ReflTransGen Step

theorem run_of_leads {s t : Scanner} (h : Leads s t) {fuel : Nat} (hfuel : s.cursor.rest.length < fuel) :
    ∃ fuel', t.cursor.rest.length < fuel' ∧ run false fuel s = run false fuel' t := by
  induction h using Relation.ReflTransGen.head_induction_on generalizing fuel with
  | refl => exact ⟨fuel, hfuel, rfl⟩
  | head hstep _ ih =>
    obtain ⟨hnext, hshorter⟩ := hstep
    obtain ⟨fuel, rfl⟩ := Nat.exists_eq_succ_of_ne_zero (Nat.ne_zero_of_lt hfuel)
    obtain ⟨fuel', hfuel', hrun⟩ := ih (Nat.lt_of_lt_of_le hshorter (Nat.le_of_lt_succ hfuel))
    refine ⟨fuel', hfuel', ?_⟩
    rw [← hrun, run, hnext]

/-- The scanner comes to the text that is left, over white space; a key may begin there. -/
def Ready (s : Scanner) (rest : List Char) (tokens : List Lexeme) (indents : List Nat) : Prop :=
  ∃ m allowed, s.skipGap = ⟨⟨m, rest⟩, tokens, indents, allowed, none, []⟩ ∧
    (rest ≠ [] → allowed = true ∧ m.column = 0)

section Lines

variable {m : Mark} {rest : List Char} {tokens : List Lexeme}

/-- Behind a value the rest of the text, if any, begins with a line end. -/
theorem ready_inLine (hrest : Stops rest) (m : Mark) (tokens : List Lexeme) :
    Ready (inLine m ('\n' :: rest) tokens) rest tokens [0] :=
  ⟨m.advance '\n', true, skipGap_eq (skip_of_stops hrest true true (m.advance '\n')), fun _ => ⟨rfl, rfl⟩⟩

theorem ready_inLine_nil (m : Mark) (tokens : List Lexeme) : Ready (inLine m [] tokens) [] tokens [0] :=
  ⟨m, false, rfl, fun h => absurd rfl h⟩

theorem ready_atLine (hrest : Stops rest) (hcolumn : m.column = 0) (tokens : List Lexeme) (indents : List Nat) :
    Ready (atLine m rest tokens indents) rest tokens indents :=
  ⟨m, true, skipGap_eq (skip_of_stops hrest true true m), fun _ => ⟨rfl, hcolumn⟩⟩

/-- What may follow a line: a line end and a text that does not go on with white space. -/
inductive Follows : List Char → List Char → Prop where
  | nothing : Follows [] []
  | line {rest : List Char} (h : Stops rest) : Follows ('\n' :: rest) rest

theorem ready_of_follows {tail : List Char} (htail : Follows tail rest) (m : Mark) (tokens : List Lexeme) :
    Ready (inLine m tail tokens) rest tokens [0] := by
  cases htail with
  | nothing => exact ready_inLine_nil m tokens
  | line hrest => exact ready_inLine hrest m tokens

theorem number_leads (n : Nat) {tail : List Char} (htail : Follows tail rest) (m : Mark) (tokens : List Lexeme) :
    ∃ s a b, Step (inLine m (' ' :: (Nat.toDigits 10 n ++ tail)) tokens) s ∧
      Ready s rest (⟨.scalar (toString n) .plain, a, b⟩ :: tokens) [0] := by
  have hword : ∀ c ∈ Nat.toDigits 10 n, isPlainChar c = true := isPlainChar_of_mem_toDigits
  have hne : Nat.toDigits 10 n ≠ [] := Nat.toDigits_ne_nil
  let stop := (Nat.toDigits 10 n).foldl Mark.advance (m.advance ' ')
  have htext : String.ofList (Draft.chars ⟨(Nat.toDigits 10 n).reverse ++ [], .empty⟩) = toString n := by
    rw [← ofList_toDigits, Draft.chars, List.append_nil, List.reverse_reverse]
  cases htail with
  | nothing =>
    have hscan : Plain.scan false 1 ⟨(Nat.toDigits 10 n).reverse ++ [], .empty⟩ stop [] =
      some (⟨(Nat.toDigits 10 n).reverse ++ [], .empty⟩, ⟨stop, []⟩) := rfl
    have hstep := step?_number hword hne hscan tokens
    rw [htext] at hstep
    exact ⟨_, m.advance ' ', stop, ⟨hstep, by simp [inLine]⟩, ready_inLine_nil stop _⟩
  | line hrest =>
    have hscan : Plain.scan false 1 ⟨(Nat.toDigits 10 n).reverse ++ [], .empty⟩ stop ('\n' :: rest) = _ :=
      Plain.scan_newline Nat.one_pos (fun c hc => (hrest c hc).1) _ stop
    have hstep := step?_number hword hne hscan tokens
    rw [show Draft.chars ⟨(Nat.toDigits 10 n).reverse ++ [], .lines (some '\n') []⟩ =
      Draft.chars ⟨(Nat.toDigits 10 n).reverse ++ [], .empty⟩ from rfl, htext] at hstep
    refine ⟨_, m.advance ' ', stop.advance '\n', ⟨hstep, ?_⟩, ready_atLine hrest rfl _ [0]⟩
    simp [inLine]
    omega

theorem quoted_leads {text : String} (htext : ∀ c ∈ text.toList, IsPrintable c) {tail : List Char}
    (htail : Follows tail rest) (m : Mark) (tokens : List Lexeme) :
    ∃ s a b, Step (inLine m (' ' :: ('"' :: (text.toList ++ ['"']) ++ tail)) tokens) s ∧
      Ready s rest (⟨.scalar text .doubleQuoted, a, b⟩ :: tokens) [0] := by
  have hstep := step?_quoted htext m tail tokens
  rw [String.ofList_toList] at hstep
  rw [List.cons_append, List.append_assoc]
  refine ⟨_, _, _, ⟨hstep, ?_⟩, ready_of_follows htail _ _⟩
  simp [inLine]
  omega

theorem skipGap_inBrackets (hrest : Stops rest) (m : Mark) (tokens : List Lexeme) :
    (inBrackets m rest tokens).skipGap = inBrackets m rest tokens :=
  skipGap_eq (skip_of_stops hrest false true m)

theorem skipGap_inBrackets_blank (hrest : Stops rest) (m : Mark) (tokens : List Lexeme) :
    (inBrackets m (' ' :: rest) tokens).skipGap = inBrackets (m.advance ' ') rest tokens :=
  skipGap_eq (skip_of_stops hrest false true (m.advance ' '))

/-- An item between brackets, behind a blank or not. -/
theorem item_leads (n : Nat) (hn : n < UInt32.size) {s : Scanner} {c : Char}
    (hskip : s.skipGap = inBrackets m (Nat.toDigits 10 n ++ c :: rest) tokens) (hgap : isGap c = false)
    (hc : isFlowIndicator c = true) :
    ∃ a b k,
      s.step? false =
        some (behindWord b (c :: rest) (⟨.scalar (toString n) .plain, a, b⟩ :: tokens) [0] k [none], false) ∧
      k.required = false ∧ Fresh k b := by
  have hword : ∀ c ∈ Nat.toDigits 10 n, isPlainChar c = true := isPlainChar_of_mem_toDigits
  have hsize := byteSize_toDigits_le hn
  have hstep := step?_item hskip hword Nat.toDigits_ne_nil hsize hgap hc
  rw [ofList_toDigits] at hstep
  exact ⟨m, _, _, hstep, rfl, (fresh_word_iff hword rfl).2 hsize⟩

/-- Five tokens, one after another: the bracket, a number, the comma, a number and the bracket. -/
theorem pair_leads {x y : Nat} (hx : x < UInt32.size) (hy : y < UInt32.size) {tail : List Char}
    (htail : Follows tail rest) (m : Mark) (tokens : List Lexeme) :
    ∃ (s : Scanner) (lexemes : List Lexeme),
      Leads (inLine m (' ' :: ((Entry.pair x y).chars ++ tail)) tokens) s ∧
        lexemes.map (·.token) = (Entry.pair x y).tokens ∧ Ready s rest (lexemes.reverse ++ tokens) [0] := by
  have hword (n : Nat) : ∀ c ∈ Nat.toDigits 10 n, isPlainChar c = true := isPlainChar_of_mem_toDigits
  have hchars : (Entry.pair x y).chars ++ tail =
      '[' :: (Nat.toDigits 10 x ++ ',' :: ' ' :: (Nat.toDigits 10 y ++ ']' :: tail)) := by
    simp [Entry.chars]
  have hstops (n : Nat) (more : List Char) : Stops (Nat.toDigits 10 n ++ more) :=
    stops_word (hword n) Nat.toDigits_ne_nil more
  -- what follows the comma
  let second := Nat.toDigits 10 y ++ ']' :: tail
  let opening : Lexeme := ⟨.flowSequenceStart, m.advance ' ', (m.advance ' ').advance '['⟩
  have hopen := step?_open m (Nat.toDigits 10 x ++ ',' :: ' ' :: second) tokens
  obtain ⟨a₁, b₁, k₁, hfirst, hrequired₁, hfresh₁⟩ :=
    item_leads (c := ',') x hx (skipGap_inBrackets (hstops x (',' :: ' ' :: second)) _ (opening :: tokens)) rfl rfl
  let first : Lexeme := ⟨.scalar (toString x) .plain, a₁, b₁⟩
  let comma : Lexeme := ⟨.flowEntry, b₁, b₁.advance ','⟩
  have hcomma := step?_comma hrequired₁ hfresh₁ (' ' :: second) (first :: opening :: tokens)
  obtain ⟨a₂, b₂, k₂, hsecond, hrequired₂, hfresh₂⟩ :=
    item_leads (c := ']') y hy (skipGap_inBrackets_blank (hstops y (']' :: tail)) (b₁.advance ',')
      (comma :: first :: opening :: tokens)) rfl rfl
  let last : Lexeme := ⟨.scalar (toString y) .plain, a₂, b₂⟩
  have hclose := step?_close hrequired₂ hfresh₂ tail (last :: comma :: first :: opening :: tokens)
  have hpos : 0 < (Nat.toDigits 10 x).length := List.length_pos_iff.2 Nat.toDigits_ne_nil
  rw [hchars]
  refine ⟨_, [opening, first, comma, last, ⟨.flowSequenceEnd, b₂, b₂.advance ']'⟩], ?_, rfl,
    ready_of_follows htail (b₂.advance ']') _⟩
  refine .head ⟨hopen, ?_⟩ (.head ⟨hfirst, ?_⟩ (.head ⟨hcomma, ?_⟩ (.head ⟨hsecond, ?_⟩ (.single ⟨hclose, ?_⟩))))
  -- every token takes a character
  all_goals simp [inLine, inBrackets, behindWord, second]
  all_goals omega

/-- **A value** has its own tokens, whatever stands before and behind it. -/
theorem entry_leads {e : Entry} (he : e.IsReadable) {tail : List Char} (htail : Follows tail rest) (m : Mark)
    (tokens : List Lexeme) :
    ∃ (s : Scanner) (lexemes : List Lexeme), Leads (inLine m (' ' :: (e.chars ++ tail)) tokens) s ∧
      lexemes.map (·.token) = e.tokens ∧ Ready s rest (lexemes.reverse ++ tokens) [0] := by
  cases e with
  | number n =>
    obtain ⟨s, a, b, hstep, hready⟩ := number_leads n htail m tokens
    exact ⟨s, [⟨.scalar (toString n) .plain, a, b⟩], .single hstep, rfl, hready⟩
  | quoted text =>
    obtain ⟨s, a, b, hstep, hready⟩ := quoted_leads he htail m tokens
    exact ⟨s, [⟨.scalar text .doubleQuoted, a, b⟩], .single hstep, rfl, hready⟩
  | pair x y => exact pair_leads he.1 he.2 htail m tokens

theorem stops_chars {l : Line} (hl : l.IsWritten) (more : List Char) : Stops (l.chars ++ more) := by
  rw [Line.chars, List.append_assoc]
  exact stops_word hl.word hl.nonempty _

theorem length_skip_le (block comment allowed : Bool) (m : Mark) (cs : List Char) :
    (skip block comment allowed m cs).2.rest.length ≤ cs.length := by
  induction cs generalizing comment allowed m with
  | nil => exact Nat.le_refl 0
  | cons c cs ih =>
    have hlater (comment allowed : Bool) (m : Mark) :
        (skip block comment allowed m cs).2.rest.length ≤ (c :: cs).length :=
      Nat.le_succ_of_le (ih comment allowed m)
    rw [skip]
    split_ifs
    · exact hlater _ _ _
    · exact hlater _ _ _
    · exact hlater _ _ _
    · exact Nat.le_refl _

theorem length_rest_skipGap_le (s : Scanner) : s.skipGap.cursor.rest.length ≤ s.cursor.rest.length :=
  length_skip_le ..

/-- **A line** has its own tokens.  Those of the first line stand behind the token that opens the mapping. -/
theorem line_leads {l : Line} (hl : l.IsReadable) {tail : List Char} (htail : Follows tail rest) {s : Scanner}
    {indents : List Nat} (hindents : indents = [] ∨ indents = [0]) (hready : Ready s (l.chars ++ tail) tokens indents) :
    ∃ (t : Scanner) (m : Mark) (lexemes : List Lexeme), Leads s t ∧ lexemes.map (·.token) = l.tokens ∧
      Ready t rest (lexemes.reverse ++ (opening indents m ++ tokens)) [0] := by
  obtain ⟨m, allowed, hskip, hstart⟩ := hready
  have hne : l.chars ++ tail ≠ [] := by simp [Line.chars, hl.nonempty]
  obtain ⟨rfl, hcolumn⟩ := hstart hne
  have hshorter : (l.chars ++ tail).length ≤ s.cursor.rest.length := by
    have hlength := length_rest_skipGap_le s
    rwa [hskip] at hlength
  have htext : l.chars ++ tail = l.key.toList ++ ':' :: ' ' :: (l.entry.chars ++ tail) := by simp [Line.chars]
  rw [htext] at hskip hshorter
  let stop := l.key.toList.foldl Mark.advance m
  let key : Lexeme := ⟨.key, m, m⟩
  let word : Lexeme := ⟨.scalar l.key .plain, m, stop⟩
  let value : Lexeme := ⟨.value, stop, stop.advance ':'⟩
  have hkey := step?_key hskip hl.word hl.nonempty hl.short hindents
  rw [String.ofList_toList] at hkey
  have hfresh : Fresh ⟨tokens.length, indents.head? == some m.column, m⟩ stop := (fresh_word_iff hl.word rfl).2 hl.short
  have hcolon := step?_colon hcolumn hindents hfresh word (l.entry.chars ++ tail)
  obtain ⟨t, lexemes, hleads, htokens, hready⟩ := entry_leads hl.entry htail (stop.advance ':')
    (value :: word :: key :: (opening indents m ++ tokens))
  refine ⟨t, m, key :: word :: value :: lexemes, .head ⟨hkey, ?_⟩ (.head ⟨hcolon, ?_⟩ hleads), ?_, ?_⟩
  · refine Nat.lt_of_lt_of_le ?_ hshorter
    have hword : 0 < l.key.toList.length := List.length_pos_iff.2 hl.nonempty
    rw [List.length_append]
    exact Nat.lt_add_of_pos_left hword
  · simp [behindWord, inLine]
  · simp [Line.tokens, htokens, key, word, value]
  · simpa using hready

/-- Behind a line there is a line end and the next line, or the text ends. -/
theorem follows_charsBehind (ended : Bool) {ls : List Line} (hls : ∀ l ∈ ls, l.IsWritten) :
    Follows (Line.charsBehind ended ls) (Line.charsOf ended ls) := by
  cases ls with
  | nil =>
    cases ended with
    | false => exact .nothing
    | true => exact .line (by rintro _ ⟨⟩)
  | cons l ls => exact .line (stops_chars (hls l List.mem_cons_self) _)

/-- The tokens of lines.  They open a mapping if none is open. -/
def linesTokens (indents : List Nat) (ls : List Line) : List Token :=
  if ls.isEmpty then [] else (if indents.isEmpty then [.blockMappingStart] else []) ++ ls.flatMap Line.tokens

/-- The columns of the open collections behind lines. -/
def linesIndents (indents : List Nat) (ls : List Line) : List Nat := if ls.isEmpty then indents else [0]

theorem linesTokens_cons (indents : List Nat) (l : Line) (ls : List Line) :
    linesTokens indents (l :: ls) =
      (if indents.isEmpty then [.blockMappingStart] else []) ++ l.tokens ++ linesTokens [0] ls := by
  cases ls <;> simp [linesTokens]

theorem linesIndents_cons (indents : List Nat) (l : Line) (ls : List Line) :
    linesIndents indents (l :: ls) = linesIndents [0] ls := by
  cases ls <;> rfl

/-- **Lines** are scanned one after another, up to the line that `more` begins with. -/
theorem lines_lead (ended : Bool) {ls more : List Line} (hls : ∀ l ∈ ls, l.IsReadable) (hmore : ∀ l ∈ more, l.IsWritten)
    {s : Scanner} {indents : List Nat} (hindents : indents = [] ∨ indents = [0])
    (hready : Ready s (Line.charsOf ended (ls ++ more)) tokens indents) :
    ∃ (t : Scanner) (lexemes : List Lexeme), Leads s t ∧ lexemes.map (·.token) = linesTokens indents ls ∧
      Ready t (Line.charsOf ended more) (lexemes.reverse ++ tokens) (linesIndents indents ls) := by
  induction ls generalizing s tokens indents with
  | nil => exact ⟨s, [], .refl, rfl, hready⟩
  | cons l ls ih =>
    obtain ⟨hl, hls⟩ := List.forall_mem_cons.1 hls
    have hothers : ∀ x ∈ ls ++ more, x.IsWritten :=
      List.forall_mem_append.2 ⟨fun l hl => (hls l hl).toIsWritten, hmore⟩
    obtain ⟨t, m, first, hfirst, htokens, ht⟩ := line_leads hl (follows_charsBehind ended hothers) hindents hready
    obtain ⟨u, others, hleads, hothers, hu⟩ := ih hls (.inr rfl) ht
    have hopening : (opening indents m).map (·.token) = if indents.isEmpty then [.blockMappingStart] else [] := by
      unfold opening
      split <;> rfl
    have hreverse : (opening indents m).reverse = opening indents m := by
      unfold opening
      split <;> rfl
    refine ⟨u, opening indents m ++ first ++ others, hfirst.trans hleads, ?_, ?_⟩
    · rw [List.map_append, List.map_append, hopening, htokens, hothers, linesTokens_cons]
    · rw [linesIndents_cons]
      simpa [hreverse] using hu

/-! ### Whole texts -/

theorem run_of_step?_eq_none {s : Scanner} (h : s.step? false = none) (fuel : Nat) :
    run false fuel s = s.delivered := by
  cases fuel with
  | zero => rfl
  | succ fuel => rw [run, h]

theorem delivered_of_ready {s : Scanner} {indents : List Nat} (h : Ready s rest tokens indents) :
    s.delivered = tokens.reverse := by
  obtain ⟨m, allowed, hskip, -⟩ := h
  -- white space changes neither tokens nor places of keys
  have hkey : s.key = none := congrArg Scanner.key hskip
  have houter : s.outer = [] := congrArg Scanner.outer hskip
  have htokens : s.tokens = tokens := congrArg Scanner.tokens hskip
  rw [delivered_of_keyless hkey houter, htokens]

theorem linesIndents_eq (ls : List Line) : linesIndents [] ls = [] ∨ linesIndents [] ls = [0] := by
  cases ls with
  | nil => exact .inl rfl
  | cons l ls => exact .inr rfl

/-- **A text of lines** has the tokens of its lines, the end of the mapping and that of the stream. -/
theorem run_lines (ended : Bool) {ls : List Line} (hls : ∀ l ∈ ls, l.IsReadable) {s : Scanner}
    (hready : Ready s (Line.charsOf ended ls) [] []) {fuel : Nat} (hfuel : s.cursor.rest.length < fuel) :
    (run false fuel s).map (·.token) =
      linesTokens [] ls ++ ((linesIndents [] ls).map (fun _ => .blockEnd) ++ [.streamEnd]) := by
  rw [← List.append_nil ls] at hready
  obtain ⟨t, lexemes, hleads, htokens, ht⟩ := lines_lead ended hls (List.forall_mem_nil _) (.inl rfl) hready
  obtain ⟨fuel', hfuel', hrun⟩ := run_of_leads hleads hfuel
  obtain ⟨fuel', rfl⟩ := Nat.exists_eq_succ_of_ne_zero (Nat.ne_zero_of_lt hfuel')
  obtain ⟨m, allowed, hskip, -⟩ := ht
  obtain ⟨u, closing, hstep, hdelivered, hclosing⟩ := step?_end hskip (linesIndents_eq ls)
  rw [hrun, run, hstep]
  show u.delivered.map (·.token) = _
  rw [hdelivered, List.append_nil, List.reverse_reverse, List.map_append, htokens, hclosing]

/-- A key that is too long ends the tokens before it, or behind it where it stands on the first line. -/
theorem run_tooLong (ended : Bool) {ls more : List Line} {l : Line} (hls : ∀ l ∈ ls, l.IsReadable)
    (hmore : ∀ l ∈ more, l.IsWritten) (hl : l.IsWritten) (hlong : 1024 < byteSize l.key.toList) {s : Scanner}
    (hready : Ready s (Line.charsOf ended (ls ++ l :: more)) [] []) {fuel : Nat} (hfuel : s.cursor.rest.length < fuel) :
    (run false fuel s).map (·.token) = if ls.isEmpty then [.scalar l.key .plain] else linesTokens [] ls := by
  obtain ⟨t, lexemes, hleads, htokens, ht⟩ :=
    lines_lead ended hls (List.forall_mem_cons.2 ⟨hl, hmore⟩) (.inl rfl) hready
  obtain ⟨fuel', hfuel', hrun⟩ := run_of_leads hleads hfuel
  obtain ⟨fuel', rfl⟩ := Nat.exists_eq_succ_of_ne_zero (Nat.ne_zero_of_lt hfuel')
  have hdelivered := delivered_of_ready ht
  obtain ⟨m, allowed, hskip, hstart⟩ := ht
  have htext : Line.charsOf ended (l :: more) =
      l.key.toList ++ ':' :: ' ' :: (l.entry.chars ++ Line.charsBehind ended more) := by
    simp [Line.charsOf, Line.chars]
  obtain ⟨rfl, hcolumn⟩ := hstart (by simp [htext])
  rw [htext] at hskip
  rw [hrun]
  cases ls with
  | nil =>
    obtain rfl : lexemes = [] := List.map_eq_nil_iff.1 htokens
    have hword := step?_key_givenUp hskip hl.word hl.nonempty hlong
    rw [run, hword]
    show (run false fuel' _).map (·.token) = _
    rw [run_of_step?_eq_none step?_colon_keyless, delivered_of_keyless rfl rfl, String.ofList_toList]
    rfl
  | cons first others =>
    have hnone := step?_key_tooLong hskip hcolumn hl.word hl.nonempty hlong
    rw [run_of_step?_eq_none hnone, hdelivered, List.append_nil, List.reverse_reverse, htokens]
    rfl

end Lines

end Scanner

namespace Lexeme

theorem brokenAt?_eq_none {cs : List Char} (h : ∀ c ∈ cs, isAllowed c = true) (before taken size : Nat) :
    brokenAt? before taken size cs = none := by
  induction cs generalizing before taken size with
  | nil => rfl
  | cons c cs ih =>
    obtain ⟨hc, hcs⟩ := List.forall_mem_cons.1 h
    rw [brokenAt?]
    simp [hc, ih hcs]

theorem unifyBreaks_eq {cs : List Char} (h : ∀ c ∈ cs, c ≠ '\r' ∧ c ≠ '\u0085') : unifyBreaks cs = cs := by
  induction cs with
  | nil => rfl
  | cons c cs ih =>
    obtain ⟨⟨hreturn, hnext⟩, hcs⟩ := List.forall_mem_cons.1 h
    rw [unifyBreaks, ih hcs]
    · simp [hreturn, hnext]
    · rintro _ rfl
      exact absurd rfl hreturn

theorem ofText_eq {text : String} (h : ∀ c ∈ text.toList, isTextChar c = true) :
    ofText text = Scanner.run false (text.toList.length + 1) { cursor := ⟨{}, text.toList⟩ } := by
  have hchars : ∀ c ∈ text.toList, isAllowed c = true ∧ c ≠ '\r' ∧ c ≠ '\u0085' := by
    intro c hc
    simpa [isTextChar, and_assoc] using h c hc
  unfold ofText
  dsimp only
  rw [brokenAt?_eq_none fun c hc => (hchars c hc).1]
  dsimp only
  rw [unifyBreaks_eq fun c hc => (hchars c hc).2]

theorem ready_start (ended : Bool) {ls : List Line} (hls : ∀ l ∈ ls, l.IsWritten) :
    Scanner.Ready { cursor := ⟨{}, (Line.join ended ls).toList⟩ } (Line.charsOf ended ls) [] [] := by
  cases ls with
  | nil =>
    cases ended with
    | false => exact ⟨{}, true, rfl, fun h => absurd rfl h⟩
    | true => exact ⟨Mark.advance {} '\n', true, rfl, fun h => absurd rfl h⟩
  | cons l ls =>
    rw [Line.toList_join]
    exact Scanner.ready_atLine (Scanner.stops_chars (hls l List.mem_cons_self) _) rfl [] []

/-- **A text of lines** has the tokens of its lines, the end of the mapping and that of the stream. -/
theorem tokens_ofText (ended : Bool) {ls : List Line} (hls : ∀ l ∈ ls, l.IsReadable) :
    (ofText (Line.join ended ls)).map (·.token) =
      Scanner.linesTokens [] ls ++ ((Scanner.linesIndents [] ls).map (fun _ => .blockEnd) ++ [.streamEnd]) := by
  have hwritten : ∀ l ∈ ls, l.IsWritten := fun l hl => (hls l hl).toIsWritten
  rw [ofText_eq (Line.isTextChar_of_mem_join ended hwritten)]
  exact Scanner.run_lines ended hls (ready_start ended hwritten) (Nat.lt_succ_self _)

/-- **A key that is too long** ends the tokens before it, or behind it where it stands on the first line. -/
theorem tokens_ofText_tooLong (ended : Bool) {ls more : List Line} {l : Line} (hls : ∀ l ∈ ls, l.IsReadable)
    (hmore : ∀ l ∈ more, l.IsWritten) (hl : l.IsWritten) (hlong : 1024 < byteSize l.key.toList) :
    (ofText (Line.join ended (ls ++ l :: more))).map (·.token) =
      if ls.isEmpty then [.scalar l.key .plain] else Scanner.linesTokens [] ls := by
  have hwritten : ∀ x ∈ ls ++ l :: more, x.IsWritten :=
    List.forall_mem_append.2 ⟨fun l hl => (hls l hl).toIsWritten, List.forall_mem_cons.2 ⟨hl, hmore⟩⟩
  rw [ofText_eq (Line.isTextChar_of_mem_join ended hwritten)]
  exact Scanner.run_tooLong ended hls hmore hl hlong (ready_start ended hwritten) (Nat.lt_succ_self _)

end Lexeme

end CommitCharts.Yaml
