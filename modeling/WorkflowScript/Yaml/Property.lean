import WorkflowScript.Text.Digits
import WorkflowScript.Yaml.Cursor
import WorkflowScript.Yaml.Token

namespace WorkflowScript.Yaml.Property

open Text

def mayFollowName (c : Char) : Bool :=
  isGap c || c == '?' || c == ':' || c == ',' || c == ']' || c == '\x7d' || c == '%' || c == '@' ||
    c == '\x60'

def name (cursor : Cursor) : Except Fault (List Char × Cursor) :=
  let (name, cursor) := cursor.next.span isWordChar
  if name.isEmpty || !(cursor.rest.head?.all mayFollowName) then .error .anchorName
  else .ok (name, cursor)

def isTagMark (c : Char) : Bool :=
  c == ';' || c == '/' || c == '?' || c == ':' || c == '@' || c == '&' || c == '=' || c == '+' ||
    c == '$' || c == '.' || c == '!' || c == '~' || c == '*' || c == '\x27' || c == '(' || c == ')'

def isTagChar (verbatim : Bool) (c : Char) : Bool :=
  isWordChar c || isTagMark c || (verbatim && (c == ',' || c == '[' || c == ']'))

def octetCount? (octet : Nat) : Option Nat :=
  if octet < 0x80 then some 1
  else if 0xC0 ≤ octet ∧ octet < 0xE0 then some 2
  else if 0xE0 ≤ octet ∧ octet < 0xF0 then some 3
  else if 0xF0 ≤ octet ∧ octet < 0xF8 then some 4
  else none

def octet? : List Char → Option Nat
  | '%' :: a :: b :: _ => Text.digits? 16 [a, b]
  | _ => none

def moreOctets : Nat → List Char → Except Fault Tag
  | 0, _ => .ok []
  | n + 1, text =>
    match octet? text with
    | some octet =>
      if 0x80 ≤ octet ∧ octet < 0xC0 then
        (moreOctets n (text.drop 3)).map (UInt8.ofNat octet :: ·)
      else .error .tagText
    | none => .error .tagText

def octets (text : List Char) : Except Fault Tag :=
  match octet? text with
  | none => .error .tagText
  | some first =>
    match octetCount? first with
    | none => .error .tagText
    | some count => (moreOctets (count - 1) (text.drop 3)).map (UInt8.ofNat first :: ·)

def tagTextFrom (verbatim : Bool) : Nat → Cursor → Except Fault (Tag × Cursor)
  | 0, _ => .error .stepsUsedUp
  | n + 1, cursor =>
    match cursor.rest with
    | [] => .ok ([], cursor)
    | c :: _ =>
      if c = '%' then do
        let bytes ← octets cursor.rest
        let (more, cursor) ← tagTextFrom verbatim n (cursor.skip (3 * bytes.length))
        return (bytes ++ more, cursor)
      else if isTagChar verbatim c then
        (tagTextFrom verbatim n cursor.next).map fun r => (UInt8.ofNat c.toNat :: r.1, r.2)
      else .ok ([], cursor)

def tagText (verbatim : Bool) (cursor : Cursor) : Except Fault (Tag × Cursor) :=
  tagTextFrom verbatim (cursor.rest.length + 1) cursor

def upToZero (tag : Tag) : Tag := tag.takeWhile (· != 0)

def handle (cursor : Cursor) : List Char × Cursor :=
  let (word, cursor) := cursor.next.span isWordChar
  if cursor.rest.head? = some '!' then ('!' :: word ++ ['!'], cursor.next) else ('!' :: word, cursor)

def isFullHandle (handle : List Char) : Bool := 2 ≤ handle.length && handle.getLast? == some '!'

def tagParts (cursor : Cursor) : Except Fault (List Char × Tag × Cursor) := do
  if cursor.rest.tail.head? == some '<' then
    let (text, cursor) ← tagText true (cursor.skip 2)
    if text.isEmpty || cursor.rest.head? != some '>' then .error .tagText
    else return ([], upToZero text, cursor.next)
  else
    let (start, cursor) := handle cursor
    let (text, cursor) ← tagText false cursor
    if isFullHandle start then
      if text.isEmpty then .error .tagText else return (start, upToZero text, cursor)
    else
      let text := upToZero (Text.Utf8.encode (start.drop 1) ++ text)
      if text.isEmpty then return ([], ownMark, cursor) else return (['!'], text, cursor)

def tag (inFlow : Bool) (cursor : Cursor) : Except Fault (Token × Cursor) := do
  let (handle, suffix, cursor) ← tagParts cursor
  let ended := cursor.rest.head?.all fun c => isGap c || (inFlow && c == ',')
  if ended then return (.tag handle suffix, cursor) else .error .tagText

def versionNumber (cursor : Cursor) : Except Fault (Nat × Cursor) :=
  let (digits, cursor) := cursor.span Char.isDigit
  if digits.length > 9 then .error .directiveVersion
  else match Text.digits? 10 digits with
    | some n => .ok (n, cursor)
    | none => .error .directiveVersion

def versionDirective (cursor : Cursor) : Except Fault (Token × Cursor) := do
  let (major, cursor) ← versionNumber (cursor.skipWhile isSpace)
  if cursor.rest.head? != some '.' then .error .directiveVersion
  else
    let (minor, cursor) ← versionNumber cursor.next
    return (.version major minor, cursor)

def tagDirective (cursor : Cursor) : Except Fault (Token × Cursor) := do
  let cursor := cursor.skipWhile isSpace
  let (start, cursor) := handle cursor
  if cursor.rest.isEmpty || !(start == ['!'] || isFullHandle start) then .error .directiveTag
  else if !(cursor.rest.head?.any isSpace) then .error .directiveTag
  else
    let (text, cursor) ← tagText true (cursor.skipWhile isSpace)
    if text.isEmpty || !startsGap cursor.rest then .error .directiveTag
    else return (.tagHandle start (upToZero text), cursor)

def directive (cursor : Cursor) : Except Fault (Token × Cursor) := do
  let (name, cursor) := cursor.next.span isWordChar
  if name.isEmpty || !startsGap cursor.rest then .error .directiveName
  else
    let (token, cursor) ←
      if name == "YAML".toList then versionDirective cursor
      else if name == "TAG".toList then
        if (cursor.skipWhile isSpace).rest.head? == some '!' then tagDirective cursor
        else .error .directiveTag
      else .error .directiveUnknown
    return (token, ← cursor.endLine .directiveEnd)

end WorkflowScript.Yaml.Property
