/-!
# What can be wrong with a document

Every reason for which a text is refused as YAML, from the characters up to the shape that a
settings file must have.
-/

namespace Conformance.Yaml

/-- The reason for refusing a text. -/
inductive Fault
  /-- A character that no document may hold. -/
  | forbiddenCharacter
  /-- No token can start with the character found. -/
  | strayCharacter
  /-- A tab stands where a space of indentation is needed. -/
  | tabIndentation
  /-- A key that had to be followed by a colon was not. -/
  | missingColon
  /-- An entry, a key or a value where the context allows none. -/
  | misplacedIndicator
  /-- The name of an anchor or alias is empty or runs into another character. -/
  | malformedName
  | malformedTag
  | undefinedTagHandle
  | malformedDirective
  | unsupportedVersion
  | repeatedDirective
  | malformedEscape
  | malformedBlockHeader
  /-- A quoted text without its closing quote. -/
  | unclosedQuote
  /-- A colon inside a plain text of a flow collection. -/
  | colonInPlainText
  /-- The tokens do not make up a document. -/
  | unexpectedToken
  | unknownAnchor (name : String)
  | nestedTooDeep
  | tooManyAliases
  | repeatedKey
  | numberOutOfRange
  /-- The content does not suit its tag. -/
  | unsuitableTag
  /-- More than one document where one is expected. -/
  | severalDocuments
  | unknownSetting (name : String)
  | repeatedSetting (name : String)
  /-- A settings document or entry of the wrong kind. -/
  | unsuitableSetting
deriving DecidableEq

/-- The reason in words. -/
def Fault.message : Fault → String
  | .forbiddenCharacter => "control characters are not allowed"
  | .strayCharacter => "found character that cannot start any token"
  | .tabIndentation => "found a tab character where an indentation space is expected"
  | .missingColon => "could not find expected ':'"
  | .misplacedIndicator => "block collection entries are not allowed in this context"
  | .malformedName => "did not find expected alphabetic or numeric character"
  | .malformedTag => "did not find expected tag URI"
  | .undefinedTagHandle => "found undefined tag handle"
  | .malformedDirective => "found a malformed directive"
  | .unsupportedVersion => "found incompatible YAML document"
  | .repeatedDirective => "found duplicate directive"
  | .malformedEscape => "found unknown escape character"
  | .malformedBlockHeader => "did not find expected comment or line break"
  | .unclosedQuote => "found unexpected end of stream"
  | .colonInPlainText => "found unexpected ':'"
  | .unexpectedToken => "did not find expected node content"
  | .unknownAnchor name => "unknown anchor " ++ name
  | .nestedTooDeep => "recursion limit exceeded"
  | .tooManyAliases => "repetition limit exceeded"
  | .repeatedKey => "duplicate entry in mapping"
  | .numberOutOfRange => "number out of range"
  | .unsuitableTag => "invalid value for its tag"
  | .severalDocuments =>
    "deserializing from YAML containing more than one document is not supported"
  | .unknownSetting name => "unknown field " ++ name
  | .repeatedSetting name => "duplicate field " ++ name
  | .unsuitableSetting => "invalid type of a setting"

end Conformance.Yaml
