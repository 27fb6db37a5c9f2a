import WorkflowScript.Template.Bindings
import WorkflowScript.Text.Scan

namespace WorkflowScript.Placeholder

open Text

def opening : List Char := ['$', '\x7b', '\x7b']

def closing : List Char := ['\x7d', '\x7d']

def isNameChar (c : Char) : Bool := c.isAlphanum || c == '_' || c == '-'

def spells (l c : Char) : Bool := c == l || c == l.toUpper || (l == 's' && c == 'ſ')

def afterWord? : List Char → List Char → Option (List Char × List Char)
  | [], text => some ([], text)
  | _ :: _, [] => none
  | l :: word, c :: text =>
    if spells l c then (afterWord? word text).map fun r => (c :: r.1, r.2) else none

def inputsWord : List Char := ['i', 'n', 'p', 'u', 't', 's']

def matrixWord : List Char := ['m', 'a', 't', 'r', 'i', 'x']

def afterScope? (text : List Char) : Option (List Char × List Char) :=
  (afterWord? inputsWord text).or (afterWord? matrixWord text)

structure Parts where
  scope : List Char
  name : List Char
  rest : List Char
  deriving DecidableEq, Repr

def read? (text : List Char) : Option Parts := do
  let t ← afterLiteral? opening text
  let (scope, t) ← afterScope? (trimStart t)
  let t ← afterLiteral? ['.'] (trimStart t)
  let t := trimStart t
  let name := t.takeWhile isNameChar
  let rest ← afterLiteral? closing (trimStart (t.dropWhile isNameChar))
  if name = [] then none else some ⟨scope, name, rest⟩

def recognise : Recogniser := fun text =>
  (read? text).map fun p => ⟨upTo text p.rest, [p.scope, p.name]⟩

def lookup (bindings : Bindings) (scope name : List Char) : Except CompileError String :=
  if sameIgnoringAsciiCase scope inputsWord then bindings.input (.ofList name)
  else bindings.matrixValue (.ofList name)

def valueOf (bindings : Bindings) (o : Occurrence) : Except CompileError (List Char) :=
  match o.groups with
  | [scope, name] => (lookup bindings scope name).map String.toList
  | _ => .ok o.whole

def resolvePieces (bindings : Bindings) : List Piece → Except CompileError (List Char)
  | [] => .ok []
  | .plain c :: pieces => (resolvePieces bindings pieces).map (c :: ·)
  | .occurrence o :: pieces => do
    let value ← valueOf bindings o
    let rest ← resolvePieces bindings pieces
    return value ++ rest

def resolve (bindings : Bindings) (text : List Char) : Except CompileError (List Char) :=
  resolvePieces bindings (pieces recognise text)

end WorkflowScript.Placeholder
