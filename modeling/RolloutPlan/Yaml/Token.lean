/-!
# Tokens of a document

The lexical parts of a text. Indentation is made explicit: a block collection begins with a token of
its own and ends with `Token.blockEnd`.
-/

namespace RolloutPlan.Yaml

/-- How a scalar is written. -/
inductive Style where
  | plain
  | singleQuoted
  | doubleQuoted
  | literal
  | folded
deriving DecidableEq, Repr

/-- A lexical part of a text. -/
inductive Token where
  | version (major minor : Nat)
  /-- A declared tag handle with the text it stands for. -/
  | handle (name text : String)
  | documentStart
  | documentEnd
  | blockSequence
  | blockMapping
  | blockEnd
  | flowSequence
  | flowSequenceEnd
  | flowMapping
  | flowMappingEnd
  | entry
  | comma
  | key
  | value
  | alias (name : String)
  | anchor (name : String)
  | tag (handle suffix : String)
  | scalar (text : String) (style : Style)
  | streamEnd
deriving DecidableEq, Repr

end RolloutPlan.Yaml
