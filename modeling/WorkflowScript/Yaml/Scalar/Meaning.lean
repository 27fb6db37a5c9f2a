import WorkflowScript.Document.Node
import WorkflowScript.Yaml.Fault
import WorkflowScript.Yaml.Token

namespace WorkflowScript.Yaml.Meaning

open Document

def isNullWord (text : List Char) : Bool :=
  text == "null".toList || text == "Null".toList || text == "NULL".toList || text == ['~']

def bool? (text : List Char) : Option Bool :=
  if text == "true".toList || text == "True".toList || text == "TRUE".toList then some true
  else if text == "false".toList || text == "False".toList || text == "FALSE".toList then some false
  else none

def isPaddedCode : List Char → Bool
  | '-' :: digits => Number.isZeroPadded digits
  | '+' :: digits => Number.isZeroPadded digits
  | digits => Number.isZeroPadded digits

def string (text : List Char) : Node := .string (.ofList text)

def plain (text : List Char) : Except Fault Node :=
  if text.isEmpty || isNullWord text then .ok .null
  else match bool? text with
  | some b => .ok (.bool b)
  | none =>
    match Number.readWhole text with
    | .fits n => .ok (.number (.integer n))
    | .tooWide => .error .integerTooWide
    | .notWhole =>
      if isPaddedCode text then .ok (string text)
      else match Number.float? text with
        | some x => .ok (.number (.float x))
        | none => .ok (string text)

def core (name : String) : Tag := coreMark ++ Text.Utf8.encode name.toList

def wanted {α : Type} (node : α → Node) : Option α → Except Fault Node
  | some a => .ok (node a)
  | none => .error .scalarNotOfTag

def integer (text : List Char) : Except Fault Node :=
  match Number.readWhole text with
  | .fits n => .ok (.number (.integer n))
  | .tooWide | .notWhole => .error .scalarNotOfTag

def untagged (isPlain : Bool) (text : List Char) : Except Fault Node :=
  if isPlain then plain text else .ok (string text)

/-- A scalar under a tag. A document's own tag leaves its meaning; any other tag that is not of the core
schema makes it a string. -/
def tagged (tag : Tag) (isPlain : Bool) (text : List Char) : Except Fault Node :=
  if tag = core "bool" then wanted .bool (bool? text)
  else if tag = core "int" then integer text
  else if tag = core "float" then wanted (fun x => .number (.float x)) (Number.float? text)
  else if tag = core "null" then
    if isNullWord text then .ok .null else .error .scalarNotOfTag
  else if ownMark.isPrefixOf tag then untagged isPlain text
  else .ok (string text)

def scalar (tag : Option Tag) (isPlain : Bool) (text : List Char) : Except Fault Node :=
  match tag with
  | some tag => tagged tag isPlain text
  | none => untagged isPlain text

end WorkflowScript.Yaml.Meaning
