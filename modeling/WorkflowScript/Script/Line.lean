import WorkflowScript.Script.Target
import WorkflowScript.Template.Placeholder

namespace WorkflowScript.Line

open Text

def beforeComment (escaped : Bool) : List Char → List Char
  | [] => []
  | c :: line =>
    if c = '#' ∧ escaped = false ∧ '\n' ∉ line then [] else c :: beforeComment (c == '\\') line

def stripComment (line : List Char) : List Char := trimEnd (beforeComment false line)

def comment? (line : List Char) : Option Occurrence :=
  let kept := beforeComment false line
  if kept.length = line.length then none
  else
    let before := kept.getLast?.toList
    some ⟨before ++ line.drop kept.length, [before]⟩

def isElided (line : List Char) : Bool :=
  match trimStart line with
  | [] => true
  | c :: _ => c == '#'

def summaryVariable : List Char := "$GITHUB_STEP_SUMMARY".toList

def afterRedirect? (text : List Char) : Option (List Char) := do
  let t ← afterLiteral? ['>'] (trimStart text)
  let t := (afterLiteral? ['>'] t).getD t
  afterLiteral? summaryVariable (trimStart t)

def redirect : Recogniser := fun text => (afterRedirect? text).map fun rest => ⟨upTo text rest, []⟩

def stripSummary (line : List Char) : List Char := trimEnd (replaceAll redirect (fun _ => []) line)

def positional : Recogniser
  | '$' :: d :: _ => if d.isDigit then some ⟨['$', d], [[d]]⟩ else none
  | _ => none

def rewritePositional (line : List Char) : List Char :=
  replaceAll positional (fun o => '%' :: o.groups.flatten) line

def continuationMark : Char := '^'

def rewriteBackslash : List Char → List Char
  | [] => []
  | ['\\'] => [continuationMark]
  | ['\\', '\\'] => ['\\', '\\']
  | c :: line => c :: rewriteBackslash line

def sleepDigits? (line : List Char) : Option (List Char) := do
  let t ← afterLiteral? "sleep".toList (trimStart line)
  let digits := (trimStart t).takeWhile Char.isDigit
  let tail := trimStart ((trimStart t).dropWhile Char.isDigit)
  let tail := trimStart ((afterLiteral? [';'] tail).getD tail)
  if trimStart t = t ∨ digits = [] ∨ tail ≠ [] then none else some digits

def pause? (line : List Char) : Option Occurrence :=
  (sleepDigits? line).map fun digits => ⟨line, [digits]⟩

def sleepCommand (target : Target) (digits : List Char) : List Char :=
  match target with
  | .shell => "ghx sleep ".toList ++ digits
  | .batch => "TIMEOUT /T ".toList ++ digits ++ " /NOBREAK >nul".toList

def rewriteSleep (target : Target) (line : List Char) : List Char :=
  match sleepDigits? line with
  | some digits => sleepCommand target digits
  | none => line

def dispatchWord : List Char := "CALL ".toList

def continuationIndent : List Char := "     ".toList

def errorJump : List Char := "  || CALL :ERROR".toList

abbrev Continuing := Bool

def dispatch (continuing : Continuing) (line : List Char) : List Char × Continuing :=
  let out := (if continuing then continuationIndent else dispatchWord) ++ line
  if out.getLast? = some continuationMark then (out, true) else (out ++ errorJump, false)

def withoutPositional (line : List Char) : List Char := replaceAll positional (fun _ => []) line

def checkResolved (line : List Char) : Except CompileError Unit :=
  if '$' ∈ withoutPositional line then
    .error (.unsupportedExpression (.ofList (withoutPositional line)))
  else .ok ()

inductive Emitted where
  | elided
  | blank
  | line (text : List Char)
  deriving DecidableEq, Repr

def Emitted.toLines : Emitted → List String
  | .elided => []
  | .blank => [""]
  | .line text => [.ofList text]

def rewrite (target : Target) (line : List Char) : List Char :=
  let line := stripSummary line
  match target with
  | .shell => rewriteSleep .shell line
  | .batch => rewriteSleep .batch (rewriteBackslash (rewritePositional line))

def transform (target : Target) (bindings : Bindings) (continuing : Continuing) (raw : List Char) :
    Except CompileError (Emitted × Continuing) :=
  let source := stripComment raw
  if isElided source then .ok (.elided, continuing)
  else do
    let resolved ← Placeholder.resolve bindings source
    let line := rewrite target resolved
    if allBlank line then return (.blank, continuing)
    let (line, continuing) :=
      match target with
      | .shell => (line, continuing)
      | .batch => dispatch continuing line
    checkResolved line
    return (.line line, continuing)

end WorkflowScript.Line
