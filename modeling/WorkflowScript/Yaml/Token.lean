import WorkflowScript.Text.Utf8

namespace WorkflowScript.Yaml

inductive Style where
  | plain
  | quoted
  | block
  deriving DecidableEq, Repr

abbrev Tag := Text.Utf8.Bytes

def ownMark : Tag := Text.Utf8.encode ['!']

def coreMark : Tag := Text.Utf8.encode "tag:yaml.org,2002:".toList

inductive Token where
  | version (major minor : Nat)
  | tagHandle (handle : List Char) (leading : Tag)
  | documentStart
  | documentEnd
  | blockSequence
  | blockMapping
  | blockEnd
  | flowSequence
  | flowSequenceEnd
  | flowMapping
  | flowMappingEnd
  | blockEntry
  | flowEntry
  | key
  | value
  | aliasOf (name : List Char)
  | anchor (name : List Char)
  | tag (handle : List Char) (suffix : Tag)
  | scalar (text : List Char) (style : Style)
  deriving DecidableEq, Repr

end WorkflowScript.Yaml
