import CommitCharts.Yaml.Node
import CommitCharts.Yaml.Token.Scan

/-!
# CommitCharts.Yaml.Node.Parse — from tokens to the tree

Every function reads one kind of phrase from the tokens and returns what it read and the tokens behind it, or
no tokens if the phrase is malformed or the tokens run out.  A node without content is an empty scalar.
-/

namespace CommitCharts.Yaml

/-- The tokens behind a phrase; none if it breaks off. -/
abbrev Rest := Option (List Lexeme)

/-- The handles of tags and what they stand for. -/
abbrev Handles := List (String × String)

/-- What is written before the content of a node. -/
structure Properties where
  anchor : Option String := none
  tag : Option String := none
  /-- Where the first property starts. -/
  start : Option Mark := none

namespace Properties

/-- A tag with its handle replaced. -/
def resolve? (handles : Handles) (handle suffix : String) : Option String :=
  if handle.isEmpty then some suffix else (handles.lookup handle).map (· ++ suffix)

/-- An anchor and a tag, in either order, at the head of the tokens; `none` if the handle of the tag is unknown. -/
def take? (handles : Handles) : List Lexeme → Option (Properties × List Lexeme)
  | ⟨.anchor a, m, _⟩ :: ⟨.tag h s, _, _⟩ :: ts => (resolve? handles h s).map fun t => (⟨some a, some t, some m⟩, ts)
  | ⟨.anchor a, m, _⟩ :: ts => some (⟨some a, none, some m⟩, ts)
  | ⟨.tag h s, m, _⟩ :: ⟨.anchor a, _, _⟩ :: ts => (resolve? handles h s).map fun t => (⟨some a, some t, some m⟩, ts)
  | ⟨.tag h s, m, _⟩ :: ts => (resolve? handles h s).map fun t => (⟨none, some t, some m⟩, ts)
  | ts => some ({}, ts)

/-- The tag of a scalar; a lone exclamation mark says no more than none. -/
def scalarTag (p : Properties) : Option String := p.tag.filter (· ≠ "!")

end Properties

namespace Parse

/-- A phrase that may be empty, in which case it is an empty scalar at the mark. -/
def orEmpty (ends : Token → Bool) (m : Lexeme → Mark) (phrase : List Lexeme → Node × Rest) :
    List Lexeme → Node × Rest
  | [] => (.missing, none)
  | t :: ts => if ends t.token then (.empty (m t), some (t :: ts)) else phrase (t :: ts)

/-- An item and those behind it. -/
def item (x : Node × Rest) (more : List Lexeme → List Node × Rest) : List Node × Rest :=
  match x.2 with
  | none => ([x.1], none)
  | some ts =>
    let (xs, rest) := more ts
    (x.1 :: xs, rest)

/-- A key and its value. -/
def entry (k : Node × Rest) (value : List Lexeme → Node × Rest) : (Node × Node) × Rest :=
  match k.2 with
  | none => ((k.1, .missing), none)
  | some ts =>
    let (v, rest) := value ts
    ((k.1, v), rest)

/-- An entry and those behind it. -/
def entries (e : (Node × Node) × Rest) (more : List Lexeme → List (Node × Node) × Rest) :
    List (Node × Node) × Rest :=
  match e.2 with
  | none => ([e.1], none)
  | some ts =>
    let (es, rest) := more ts
    (e.1 :: es, rest)

/-- The value behind a value indicator.  Without one it is an empty scalar where the next token starts. -/
def value (phrase : Mark → List Lexeme → Node × Rest) : List Lexeme → Node × Rest
  | [] => (.missing, none)
  | t :: ts => if t.token = .value then phrase t.stop ts else (.empty t.start, some (t :: ts))

/-- The tokens of the next item between brackets: behind a comma, but for the first one. -/
def afterComma (first : Bool) : List Lexeme → Rest
  | [] => none
  | t :: ts => if first then some (t :: ts) else if t.token = .flowEntry then some ts else none

def endsBlockItem (t : Token) : Bool := t == .blockEntry || t == .blockEnd

def endsBlockPart (t : Token) : Bool := t == .key || t == .value || t == .blockEnd

def endsIndentlessItem (t : Token) : Bool := t == .blockEntry || endsBlockPart t

def endsFlowKey (close t : Token) : Bool := t == .value || t == .flowEntry || t == close

def endsFlowValue (close t : Token) : Bool := t == .flowEntry || t == close

section Phrases

variable (handles : Handles)

mutual

/-- A node.  `block` allows block collections, and `indentless` a sequence that is no further in than its key. -/
def node (fuel : Nat) (block indentless : Bool) (ts : List Lexeme) : Node × Rest :=
  match fuel with
  | 0 => (.missing, none)
  | fuel + 1 =>
    match ts with
    | ⟨.alias name, m, _⟩ :: ts => (.alias m name, some ts)
    | _ =>
      match Properties.take? handles ts with
      | none | some (_, []) => (.missing, none)
      | some (p, t :: ts) =>
        let m := p.start.getD t.start
        let sequence (r : List Node × Rest) : Node × Rest := (.sequence m p.anchor r.1 r.2.isSome, r.2)
        let mapping (r : List (Node × Node) × Rest) : Node × Rest := (.mapping m p.anchor r.1 r.2.isSome, r.2)
        let bare : Node × Rest :=
          if p.start.isSome then (.scalar m p.anchor ⟨"", p.tag, .plain⟩, some (t :: ts)) else (.missing, none)
        match t.token with
        | .scalar text style => (.scalar m p.anchor ⟨text, p.scalarTag, style⟩, some ts)
        | .flowSequenceStart => sequence (flowItems fuel true ts)
        | .flowMappingStart => mapping (flowEntries fuel true ts)
        | .blockEntry => if indentless then sequence (indentlessItems fuel (t :: ts)) else bare
        | .blockSequenceStart => if block then sequence (blockItems fuel ts) else bare
        | .blockMappingStart => if block then mapping (blockEntries fuel ts) else bare
        | _ => bare

/-- The items of a block sequence, up to its end. -/
def blockItems (fuel : Nat) (ts : List Lexeme) : List Node × Rest :=
  match fuel with
  | 0 => ([], none)
  | fuel + 1 =>
    match ts with
    | ⟨.blockEntry, _, stop⟩ :: ts =>
      item (orEmpty endsBlockItem (fun _ => stop) (node fuel true false) ts) (blockItems fuel)
    | ⟨.blockEnd, _, _⟩ :: ts => ([], some ts)
    | _ => ([], none)

/-- The items of a sequence as far in as its key, up to anything but another item. -/
def indentlessItems (fuel : Nat) (ts : List Lexeme) : List Node × Rest :=
  match fuel with
  | 0 => ([], none)
  | fuel + 1 =>
    match ts with
    | ⟨.blockEntry, _, stop⟩ :: ts =>
      item (orEmpty endsIndentlessItem (fun _ => stop) (node fuel true false) ts) (indentlessItems fuel)
    | [] => ([], none)
    | ts => ([], some ts)

/-- The entries of a block mapping, up to its end. -/
def blockEntries (fuel : Nat) (ts : List Lexeme) : List (Node × Node) × Rest :=
  match fuel with
  | 0 => ([], none)
  | fuel + 1 =>
    match ts with
    | ⟨.key, _, stop⟩ :: ts =>
      entries
        (entry (orEmpty endsBlockPart (fun _ => stop) (node fuel true true) ts)
          (value fun stop => orEmpty endsBlockPart (fun _ => stop) (node fuel true true)))
        (blockEntries fuel)
    | ⟨.blockEnd, _, _⟩ :: ts => ([], some ts)
    | _ => ([], none)

/-- The items between brackets.  An item with a key is a mapping of one entry. -/
def flowItems (fuel : Nat) (first : Bool) (ts : List Lexeme) : List Node × Rest :=
  match fuel with
  | 0 => ([], none)
  | fuel + 1 =>
    match ts with
    | ⟨.flowSequenceEnd, _, _⟩ :: ts => ([], some ts)
    | ts =>
      match afterComma first ts with
      | some (⟨.flowSequenceEnd, _, _⟩ :: ts) => ([], some ts)
      | some (⟨.key, m, _⟩ :: ts) =>
        let (e, rest) := entry (pairKey fuel ts)
          (value fun _ => orEmpty (endsFlowValue .flowSequenceEnd) (·.start) (node fuel false false))
        item (.mapping m none [e] rest.isSome, rest) (flowItems fuel false)
      | some (t :: ts) => item (node fuel false false (t :: ts)) (flowItems fuel false)
      | _ => ([], none)

/-- The key of an entry among the items of a sequence.  The token behind an empty key is passed over. -/
def pairKey (fuel : Nat) (ts : List Lexeme) : Node × Rest :=
  match fuel with
  | 0 => (.missing, none)
  | fuel + 1 =>
    match ts with
    | [] => (.missing, none)
    | t :: ts =>
      if endsFlowKey .flowSequenceEnd t.token then (.empty t.stop, some ts) else node fuel false false (t :: ts)

/-- The entries between braces.  An item without a key indicator is a key with an empty value. -/
def flowEntries (fuel : Nat) (first : Bool) (ts : List Lexeme) : List (Node × Node) × Rest :=
  match fuel with
  | 0 => ([], none)
  | fuel + 1 =>
    match ts with
    | ⟨.flowMappingEnd, _, _⟩ :: ts => ([], some ts)
    | ts =>
      match afterComma first ts with
      | some (⟨.flowMappingEnd, _, _⟩ :: ts) => ([], some ts)
      | some (⟨.key, _, _⟩ :: ts) =>
        entries
          (entry (orEmpty (endsFlowKey .flowMappingEnd) (·.start) (node fuel false false) ts)
            (value fun _ => orEmpty (endsFlowValue .flowMappingEnd) (·.start) (node fuel false false)))
          (flowEntries fuel false)
      | some (t :: ts) =>
        entries
          (entry (node fuel false false (t :: ts))
            (orEmpty (fun _ => true) (·.start) (node fuel false false)))
          (flowEntries fuel false)
      | _ => ([], none)

end

end Phrases

/-- Directives up to another token.  Versions but 1.1 and 1.2, and directives given twice, are refused. -/
def directives? (versioned : Bool) (handles : Handles) : List Lexeme → Option (Handles × List Lexeme)
  | ⟨.versionDirective major minor, _, _⟩ :: ts =>
    if versioned || major ≠ 1 || (minor ≠ 1 && minor ≠ 2) then none else directives? true handles ts
  | ⟨.tagDirective handle target, _, _⟩ :: ts =>
    if (handles.lookup handle).isSome then none else directives? versioned (handles ++ [(handle, target)]) ts
  | ts => some (handles ++ [("!", "!"), ("!!", "tag:yaml.org,2002:")], ts)

def isDirective : Token → Bool
  | .versionDirective .. | .tagDirective .. => true
  | _ => false

/-- The document is empty. -/
def endsDocument (t : Token) : Bool :=
  isDirective t || t == .documentStart || t == .documentEnd || t == .streamEnd

/-- Each phrase within another one takes a token, or is one of a few alternatives for it. -/
def fuel (ts : List Lexeme) : Nat := 4 * ts.length + 4

/-- The root of the first document.  Only a document that starts with a mark can have directives or be empty. -/
def root (ts : List Lexeme) : Node × Rest :=
  match directives? false [] ts with
  | none => (.missing, none)
  | some (handles, rest) =>
    match rest with
    | ⟨.documentStart, _, _⟩ :: rest => orEmpty endsDocument (·.start) (node handles (fuel rest) true false) rest
    | _ => if rest.length = ts.length then node handles (fuel ts) true false ts else (.missing, none)

/-- Nothing follows but marks that a document ended. -/
def isLast (ts : List Lexeme) : Bool :=
  (ts.dropWhile (·.token == .documentEnd)).head?.any (·.token == .streamEnd)

end Parse

def Document.ofLexemes (ts : List Lexeme) : Document :=
  match ts with
  | ⟨.streamEnd, _, _⟩ :: _ => ⟨none, true, true⟩
  | _ =>
    let (node, rest) := Parse.root ts
    match rest with
    | some (t :: ts) => ⟨some node, true, Parse.isLast (t :: ts)⟩
    | _ => ⟨some node, false, false⟩

def Document.ofText (text : String) : Document := .ofLexemes (Lexeme.ofText text)

end CommitCharts.Yaml
