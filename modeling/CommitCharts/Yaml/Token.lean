import CommitCharts.Yaml.Scalar

/-!
# CommitCharts.Yaml.Token — tokens

Besides what is written in the text, tokens mark where collections begin and end by indentation, and where the
keys of mappings begin.
-/

namespace CommitCharts.Yaml

inductive Token where
  | versionDirective (major minor : Nat)
  | tagDirective (handle target : String)
  | documentStart
  | documentEnd
  | blockSequenceStart
  | blockMappingStart
  | blockEnd
  | flowSequenceStart
  | flowSequenceEnd
  | flowMappingStart
  | flowMappingEnd
  | blockEntry
  | flowEntry
  | key
  | value
  | anchor (name : String)
  | alias (name : String)
  /-- A shorthand of a handle and a suffix, or a whole tag with an empty handle. -/
  | tag (handle suffix : String)
  | scalar (text : String) (style : Style)
  | streamEnd
  deriving DecidableEq, Repr

/-- A token and where it starts and stops. -/
structure Lexeme where
  token : Token
  start : Mark
  stop : Mark
  deriving DecidableEq, Repr

end CommitCharts.Yaml
