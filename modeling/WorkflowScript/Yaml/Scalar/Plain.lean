import WorkflowScript.Yaml.Cursor

namespace WorkflowScript.Yaml.Plain

def isFlowIndicator (c : Char) : Bool :=
  c == ',' || c == '[' || c == ']' || c == '\x7b' || c == '\x7d'

def touchesIndicator : List Char → Bool
  | [] => false
  | c :: _ => isFlowIndicator c || c == '?'

def run (inFlow : Bool) : List Char → Except Fault (List Char)
  | [] => .ok []
  | c :: text =>
    if isGap c then .ok []
    else if inFlow && c == ':' && touchesIndicator text then .error .colonInFlow
    else if (c == ':' && startsGap text) || (inFlow && isFlowIndicator c) then .ok []
    else (run inFlow text).map (c :: ·)

structure Gap where
  spaces : List Char
  breaks : List Char
  deriving DecidableEq, Repr

def Gap.none : Gap := ⟨[], []⟩

def Gap.text (gap : Gap) : List Char :=
  match gap.breaks with
  | [] => gap.spaces
  | breaks => foldBreaks breaks

def gapFrom (indent column : Nat) (gap : Gap) : List Char → Except Fault Gap
  | [] => .ok gap
  | c :: text =>
    if isBreak c then gapFrom indent 0 ⟨[], gap.breaks ++ [c]⟩ text
    else if isSpace c then
      match gap.breaks with
      | [] => gapFrom indent (column + 1) ⟨gap.spaces ++ [c], []⟩ text
      | _ =>
        if c == '\t' && column < indent then .error .tabInIndentation
        else gapFrom indent (column + 1) gap text
    else .ok gap

structure Result where
  text : List Char
  brokeLine : Bool
  cursor : Cursor

def loop (inFlow : Bool) (indent : Nat) : Nat → List Char → Gap → Cursor → Except Fault Result
  | 0, _, _, _ => .error .stepsUsedUp
  | n + 1, text, gap, cursor =>
    if (cursor.atDocumentMark?).isSome || cursor.rest.head? == some '#' then
      .ok ⟨text, !gap.breaks.isEmpty, cursor⟩
    else do
      let chars ← run inFlow cursor.rest
      let (text, gap) := if chars.isEmpty then (text, gap) else (text ++ gap.text ++ chars, Gap.none)
      let cursor := cursor.skip chars.length
      if !(cursor.rest.head?.any isGap) then return ⟨text, !gap.breaks.isEmpty, cursor⟩
      let gap ← gapFrom indent cursor.column .none cursor.rest
      let cursor := cursor.skipWhile isGap
      if !inFlow && cursor.column < indent then return ⟨text, !gap.breaks.isEmpty, cursor⟩
      loop inFlow indent n text gap cursor

def read (inFlow : Bool) (indent : Nat) (cursor : Cursor) : Except Fault Result :=
  loop inFlow indent (cursor.rest.length + 1) [] .none cursor

end WorkflowScript.Yaml.Plain
