/-!
# Faults in YAML text

Why a text is no YAML document of the expected shape.
-/

namespace HomeAgents.Yaml

inductive Fault where
  | controlCharacter
  | badToken
  | badDirective
  | badDocument
  | severalDocuments
  | badAnchor
  | badTag
  | undefinedTag
  | undefinedAlias
  | badBlockScalar
  | badEscape
  | badPlainScalar
  | openQuote
  | tabAsIndentation
  | keyWithoutValue
  | misplacedEntry
  | misplacedKey
  | misplacedValue
  | contentExpected
  | entryExpected
  | wrongShape
  | unknownField (name : String)
  | duplicateField (name : String)
  | tooDeep
deriving DecidableEq, Repr, Inhabited

def Fault.message : Fault → String
  | controlCharacter => "control characters are not allowed"
  | badToken => "found character that cannot start any token"
  | badDirective => "malformed directive"
  | badDocument => "did not find expected document start"
  | severalDocuments => "more than one document"
  | badAnchor => "malformed anchor or alias"
  | badTag => "malformed tag"
  | undefinedTag => "found undefined tag handle"
  | undefinedAlias => "unknown anchor"
  | badBlockScalar => "malformed block scalar header"
  | badEscape => "malformed escape sequence"
  | badPlainScalar => "found unexpected ':'"
  | openQuote => "found unexpected end of quoted scalar"
  | tabAsIndentation => "found a tab character where an indentation space is expected"
  | keyWithoutValue => "could not find expected ':'"
  | misplacedEntry => "block sequence entries are not allowed in this context"
  | misplacedKey => "mapping keys are not allowed in this context"
  | misplacedValue => "mapping values are not allowed in this context"
  | contentExpected => "did not find expected node content"
  | entryExpected => "did not find expected entry or end of collection"
  | wrongShape => "invalid type or value"
  | unknownField name => "unknown field `" ++ name ++ "`"
  | duplicateField name => "duplicate field `" ++ name ++ "`"
  | tooDeep => "text nested too deeply"

end HomeAgents.Yaml
