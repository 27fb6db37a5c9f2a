import WorkflowScript.Shell.Regex
import WorkflowScript.Shell.Tool.Lines

namespace WorkflowScript.Shell.Search

inductive Spelling where
  | basic
  | extended
  | plain
  deriving DecidableEq, Repr

structure Settings where
  spelling : Spelling
  ignoreCase : Bool
  wholeLine : Bool
  wholeWord : Bool
  inverted : Bool

def plainRegex (text : Chars) : Regex := text.foldr (fun c regex => .sequence (.char c) regex) .empty

def regex? (settings : Settings) (text : Chars) : Option Regex := do
  let regex ← match settings.spelling with
    | .plain => some (plainRegex text)
    | .basic => Regex.parse? .basic text
    | .extended => Regex.parse? .extended text
  let regex := if settings.wholeWord then .sequence (.wordEdge true false) (.sequence regex (.wordEdge false true))
    else regex
  return if settings.wholeLine then .sequence .lineStart (.sequence regex .lineStop) else regex

def better (a b : Option Regex.Match) : Option Regex.Match :=
  match a, b with
  | some a, some b =>
    if b.start < a.start ∨ (b.start = a.start ∧ a.whole.length < b.whole.length) then some b else some a
  | some a, none => some a
  | none, b => b

def find? (ignoreCase : Bool) (regexes : List Regex) (text : Chars) : Option Regex.Match :=
  regexes.foldl (fun found regex => better found (Regex.search? ignoreCase regex text)) none

def selects (settings : Settings) (regexes : List Regex) (line : Chars) : Bool :=
  regexes.any (fun regex => (Regex.search? settings.ignoreCase regex line).isSome) != settings.inverted

def matchesFrom (ignoreCase : Bool) (regexes : List Regex) : Nat → Chars → List Chars
  | 0, _ => []
  | n + 1, text =>
    match find? ignoreCase regexes text with
    | none => []
    | some found =>
      if found.whole.isEmpty then
        (if text.isEmpty then [] else matchesFrom ignoreCase regexes n (text.drop (found.start + 1)))
      else found.whole :: matchesFrom ignoreCase regexes n (text.drop (found.start + found.whole.length))

def parts (settings : Settings) (regexes : List Regex) (line : Chars) : List Chars :=
  matchesFrom settings.ignoreCase regexes (line.length + 1) line

end WorkflowScript.Shell.Search
