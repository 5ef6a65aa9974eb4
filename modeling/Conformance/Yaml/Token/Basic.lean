/-!
# Tokens

A document is a sequence of tokens.  Block structure, which the text shows by indentation, is
explicit in them: a block collection has a token at its start and one at its end.
-/

namespace Conformance.Yaml

/-- How a scalar is written. -/
inductive Style
  | plain
  | singleQuoted
  | doubleQuoted
  | literal
  | folded
deriving DecidableEq

/-- One token.  Tags are octets, because their escapes are. -/
inductive Token
  | streamEnd
  | version (major minor : Nat)
  | tagHandle (handle : List UInt8) (leading : List UInt8)
  | documentStart
  | documentEnd
  | blockSequenceStart
  | blockMappingStart
  | blockEnd
  | flowSequenceStart
  | flowSequenceEnd
  | flowMappingStart
  | flowMappingEnd
  | blockEntry
  | flowEntry
  | key
  | value
  | alias (name : String)
  | anchor (name : String)
  | tag (handle suffix : List UInt8)
  | scalar (text : String) (style : Style)
deriving DecidableEq

end Conformance.Yaml
