import WorkflowScript.Yaml.Property
import WorkflowScript.Yaml.Scalar.Block
import WorkflowScript.Yaml.Scalar.Plain
import WorkflowScript.Yaml.Scalar.Quoted
import WorkflowScript.Yaml.Token

namespace WorkflowScript.Yaml

structure OpenKey where
  required : Bool
  place : Nat
  offset : Nat
  line : Nat
  column : Nat
  deriving Repr

def keyReach : Nat := 1024

structure Lexer where
  cursor : Cursor
  tokens : List Token
  blocks : List Nat
  keys : List (Option OpenKey)
  keyAllowed : Bool

namespace Lexer

def start (text : List Char) : Lexer := ⟨.start text, [], [], [none], true⟩

def inFlow (lexer : Lexer) : Bool := 1 < lexer.keys.length

def indent (lexer : Lexer) : Nat :=
  match lexer.blocks with
  | [] => 0
  | column :: _ => column + 1

def emit (token : Token) (lexer : Lexer) : Lexer := { lexer with tokens := token :: lexer.tokens }

def advance (n : Nat) (lexer : Lexer) : Lexer := { lexer with cursor := lexer.cursor.skip n }

def allowKey (allowed : Bool) (lexer : Lexer) : Lexer := { lexer with keyAllowed := allowed }

def emitAt (place : Nat) (token : Token) (lexer : Lexer) : Lexer :=
  let later := lexer.tokens.length - place
  { lexer with tokens := lexer.tokens.take later ++ token :: lexer.tokens.drop later }

def dropKey (lexer : Lexer) : Except Fault Lexer :=
  match lexer.keys with
  | some key :: keys =>
    if key.required then .error .keyWithoutColon else .ok { lexer with keys := none :: keys }
  | _ => .ok lexer

def openKey (lexer : Lexer) : Except Fault Lexer :=
  if lexer.keyAllowed then do
    let required := !lexer.inFlow && lexer.indent == lexer.cursor.column + 1
    let key : OpenKey :=
      ⟨required, lexer.tokens.length, lexer.cursor.offset, lexer.cursor.line, lexer.cursor.column⟩
    let lexer ← lexer.dropKey
    return { lexer with keys := some key :: lexer.keys.drop 1 }
  else .ok lexer

def isStale (cursor : Cursor) (key : OpenKey) : Bool :=
  key.line < cursor.line || key.offset + keyReach < cursor.offset

def freshKeys (cursor : Cursor) : List (Option OpenKey) → Except Fault (List (Option OpenKey))
  | [] => .ok []
  | none :: keys => (freshKeys cursor keys).map (none :: ·)
  | some key :: keys =>
    if isStale cursor key then
      if key.required then .error .keyWithoutColon else (freshKeys cursor keys).map (none :: ·)
    else (freshKeys cursor keys).map (some key :: ·)

def dropStaleKeys (lexer : Lexer) : Except Fault Lexer :=
  (freshKeys lexer.cursor lexer.keys).map fun keys => { lexer with keys := keys }

def openBlock (column place : Nat) (token : Token) (lexer : Lexer) : Lexer :=
  if !lexer.inFlow && lexer.indent ≤ column then
    { lexer.emitAt place token with blocks := column :: lexer.blocks }
  else lexer

def closeBlocksFrom (reached : Nat → Bool) (tokens : List Token) : List Nat → List Token × List Nat
  | [] => (tokens, [])
  | column :: blocks =>
    if reached column then (tokens, column :: blocks)
    else closeBlocksFrom reached (.blockEnd :: tokens) blocks

def closeBlocks (reached : Nat → Bool) (lexer : Lexer) : Lexer :=
  if lexer.inFlow then lexer
  else
    let (tokens, blocks) := closeBlocksFrom reached lexer.tokens lexer.blocks
    { lexer with tokens := tokens, blocks := blocks }

def closeAllBlocks (lexer : Lexer) : Lexer := lexer.closeBlocks fun _ => false

/-- The spaces, comments and breaks before the next token: how many characters, and whether a key may
start after them. A tab is a space only where no key may start; a byte order mark is one where
`atLineStart` holds. -/
def spacesFrom (inFlow keyAllowed inComment atLineStart : Bool) (count : Nat) : List Char → Nat × Bool
  | [] => (count, keyAllowed)
  | c :: text =>
    if isBreak c then spacesFrom inFlow (keyAllowed || !inFlow) false true (count + 1) text
    else if inComment || c == '#' then spacesFrom inFlow keyAllowed true false (count + 1) text
    else if c == ' ' || (c == '\t' && (inFlow || !keyAllowed)) || (atLineStart && c == byteOrderMark) then
      spacesFrom inFlow keyAllowed false false (count + 1) text
    else (count, keyAllowed)

def skipSpaces (lexer : Lexer) : Lexer :=
  let cursor := lexer.cursor
  let (count, allowed) :=
    spacesFrom lexer.inFlow lexer.keyAllowed false (cursor.column == 0) 0 cursor.rest
  { lexer with cursor := cursor.skip count, keyAllowed := allowed }

def directive (lexer : Lexer) : Except Fault Lexer := do
  let lexer ← lexer.closeAllBlocks.dropKey
  let (token, cursor) ← Property.directive lexer.cursor
  return ({ lexer with cursor := cursor }.emit token).allowKey false

def documentMark (token : Token) (lexer : Lexer) : Except Fault Lexer := do
  let lexer ← lexer.closeAllBlocks.dropKey
  return ((lexer.advance 3).emit token).allowKey false

def flowStart (token : Token) (lexer : Lexer) : Except Fault Lexer := do
  let lexer ← lexer.openKey
  return (({ lexer with keys := none :: lexer.keys }.advance 1).emit token).allowKey true

def flowEnd (token : Token) (lexer : Lexer) : Except Fault Lexer := do
  let lexer ← lexer.dropKey
  let keys := match lexer.keys with
    | _ :: key :: keys => key :: keys
    | keys => keys
  return (({ lexer with keys := keys }.advance 1).emit token).allowKey false

def flowEntry (lexer : Lexer) : Except Fault Lexer := do
  let lexer ← lexer.dropKey
  return ((lexer.advance 1).emit .flowEntry).allowKey true

def blockEntry (lexer : Lexer) : Except Fault Lexer := do
  if !lexer.inFlow && !lexer.keyAllowed then .error .entryNotAllowed
  else
    let lexer := lexer.openBlock lexer.cursor.column lexer.tokens.length .blockSequence
    let lexer ← lexer.dropKey
    return ((lexer.advance 1).emit .blockEntry).allowKey true

def explicitKey (lexer : Lexer) : Except Fault Lexer := do
  if !lexer.inFlow && !lexer.keyAllowed then .error .keyNotAllowed
  else
    let lexer := lexer.openBlock lexer.cursor.column lexer.tokens.length .blockMapping
    let lexer ← lexer.dropKey
    return ((lexer.advance 1).emit .key).allowKey (!lexer.inFlow)

def value (lexer : Lexer) : Except Fault Lexer :=
  match lexer.keys with
  | some key :: keys =>
    let lexer := (lexer.emitAt key.place .key).openBlock key.column key.place .blockMapping
    .ok ((({ lexer with keys := none :: keys }.advance 1).emit .value).allowKey false)
  | _ =>
    if !lexer.inFlow && !lexer.keyAllowed then .error .valueNotAllowed
    else
      let lexer := lexer.openBlock lexer.cursor.column lexer.tokens.length .blockMapping
      .ok (((lexer.advance 1).emit .value).allowKey (!lexer.inFlow))

def named (token : List Char → Token) (lexer : Lexer) : Except Fault Lexer := do
  let lexer ← lexer.openKey
  let (name, cursor) ← Property.name lexer.cursor
  return ({ lexer with cursor := cursor }.emit (token name)).allowKey false

def tag (lexer : Lexer) : Except Fault Lexer := do
  let lexer ← lexer.openKey
  let (token, cursor) ← Property.tag lexer.inFlow lexer.cursor
  return ({ lexer with cursor := cursor }.emit token).allowKey false

def blockScalar (literal : Bool) (lexer : Lexer) : Except Fault Lexer := do
  let lexer ← lexer.dropKey
  let (text, cursor) ← Block.read literal lexer.blocks.head? lexer.cursor
  return ({ lexer with cursor := cursor }.emit (.scalar text .block)).allowKey true

def quotedScalar (quote : Quoted.Quote) (lexer : Lexer) : Except Fault Lexer := do
  let lexer ← lexer.openKey
  let (text, cursor) ← Quoted.read quote lexer.cursor
  return ({ lexer with cursor := cursor }.emit (.scalar text .quoted)).allowKey false

def plainScalar (lexer : Lexer) : Except Fault Lexer := do
  let lexer ← lexer.openKey
  let result ← Plain.read lexer.inFlow lexer.indent lexer.cursor
  return ({ lexer with cursor := result.cursor }.emit (.scalar result.text .plain)).allowKey
    result.brokeLine

def isIndicator (c : Char) : Bool :=
  c == '-' || c == '?' || c == ':' || Plain.isFlowIndicator c || c == '#' || c == '&' || c == '*' ||
    c == '!' || c == '|' || c == '>' || c == '\x27' || c == '\x22' || c == '%' || c == '@' || c == '\x60'

def startsPlain (inFlow : Bool) (c : Char) (text : List Char) : Bool :=
  !(isGap c || isIndicator c) || (c == '-' && !(text.head?.any isSpace)) ||
    (!inFlow && (c == '?' || c == ':') && !startsGap text)

def token (c : Char) (text : List Char) (lexer : Lexer) : Except Fault Lexer :=
  let free := lexer.inFlow || startsGap text
  if lexer.cursor.column = 0 ∧ c = '%' then lexer.directive
  else match lexer.cursor.atDocumentMark? with
  | some '-' => lexer.documentMark .documentStart
  | some _ => lexer.documentMark .documentEnd
  | none =>
    if c = '[' then lexer.flowStart .flowSequence
    else if c = '\x7b' then lexer.flowStart .flowMapping
    else if c = ']' then lexer.flowEnd .flowSequenceEnd
    else if c = '\x7d' then lexer.flowEnd .flowMappingEnd
    else if c = ',' then lexer.flowEntry
    else if c = '-' ∧ startsGap text = true then lexer.blockEntry
    else if c = '?' ∧ free = true then lexer.explicitKey
    else if c = ':' ∧ free = true then lexer.value
    else if c = '*' then lexer.named .aliasOf
    else if c = '&' then lexer.named .anchor
    else if c = '!' then lexer.tag
    else if c = '|' ∧ lexer.inFlow = false then lexer.blockScalar true
    else if c = '>' ∧ lexer.inFlow = false then lexer.blockScalar false
    else if c = '\x27' then lexer.quotedScalar .single
    else if c = '\x22' then lexer.quotedScalar .double
    else if startsPlain lexer.inFlow c text then lexer.plainScalar
    else .error .noToken

def finish (lexer : Lexer) : Except Fault (List Token) :=
  lexer.closeAllBlocks.dropKey.map fun lexer => lexer.tokens.reverse

def readAll : Nat → Lexer → Except Fault (List Token)
  | 0, _ => .error .stepsUsedUp
  | n + 1, lexer => do
    let lexer ← lexer.skipSpaces.dropStaleKeys
    let lexer := lexer.closeBlocks (· ≤ lexer.cursor.column)
    match lexer.cursor.rest with
    | [] => lexer.finish
    | c :: text => readAll n (← lexer.token c text)

end Lexer

def tokens (text : List Char) : Except Fault (List Token) :=
  if text.all isAllowed then
    let text := withLineFeeds text
    (Lexer.start text).readAll (text.length + 1)
  else .error .controlCharacter

end WorkflowScript.Yaml
