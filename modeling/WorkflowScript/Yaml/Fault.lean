namespace WorkflowScript.Yaml

inductive Fault where
  | controlCharacter
  | keyWithoutColon
  | entryNotAllowed
  | keyNotAllowed
  | valueNotAllowed
  | noToken
  | directiveName
  | directiveUnknown
  | directiveVersion
  | directiveTag
  | directiveEnd
  | directiveRepeated
  | versionUnsupported
  | anchorName
  | tagText
  | tagHandleUnknown
  | tabInIndentation
  | colonInFlow
  | markInQuotes
  | quotesOpen
  | escapeUnknown
  | escapeDigits
  | escapeCharacter
  | blockHeader
  | noNode
  | noEntry
  | noKey
  | noFlowEntry
  | noDocumentStart
  | documentRepeated
  | aliasUnknown
  | aliasTooOften
  | tooDeep
  | keyRepeated
  | scalarNotOfTag
  | integerTooWide
  | stepsUsedUp
  deriving DecidableEq, Repr

def Fault.message : Fault → String
  | .controlCharacter => "control characters are not allowed"
  | .keyWithoutColon => "could not find expected ':'"
  | .entryNotAllowed => "block sequence entries are not allowed in this context"
  | .keyNotAllowed => "mapping keys are not allowed in this context"
  | .valueNotAllowed => "mapping values are not allowed in this context"
  | .noToken => "found character that cannot start any token"
  | .directiveName => "could not find expected directive name"
  | .directiveUnknown => "found unknown directive name"
  | .directiveVersion => "did not find expected version number"
  | .directiveTag => "did not find expected tag directive"
  | .directiveEnd => "did not find expected comment or line break"
  | .directiveRepeated => "found duplicate directive"
  | .versionUnsupported => "found incompatible YAML document"
  | .anchorName => "did not find expected alphabetic or numeric character"
  | .tagText => "did not find expected tag URI"
  | .tagHandleUnknown => "found undefined tag handle"
  | .tabInIndentation => "found a tab character that violates indentation"
  | .colonInFlow => "found unexpected ':'"
  | .markInQuotes => "found unexpected document indicator"
  | .quotesOpen => "found unexpected end of stream"
  | .escapeUnknown => "found unknown escape character"
  | .escapeDigits => "did not find expected hexadecimal number"
  | .escapeCharacter => "found invalid Unicode character escape code"
  | .blockHeader => "did not find expected block scalar header"
  | .noNode => "did not find expected node content"
  | .noEntry => "did not find expected '-' indicator"
  | .noKey => "did not find expected key"
  | .noFlowEntry => "did not find expected ',' or closing bracket"
  | .noDocumentStart => "did not find expected document start"
  | .documentRepeated => "more than one document is not supported"
  | .aliasUnknown => "unknown anchor"
  | .aliasTooOften => "repetition limit exceeded"
  | .tooDeep => "recursion limit exceeded"
  | .keyRepeated => "duplicate key in mapping"
  | .scalarNotOfTag => "scalar does not fit its tag"
  | .integerTooWide => "integer does not fit 64 bits"
  | .stepsUsedUp => "text could not be read to its end"

end WorkflowScript.Yaml
