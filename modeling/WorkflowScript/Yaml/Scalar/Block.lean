import WorkflowScript.Yaml.Cursor

namespace WorkflowScript.Yaml.Block

inductive Chomping where
  | strip
  | clip
  | keep
  deriving DecidableEq, Repr

structure Header where
  chomping : Chomping
  increment : Nat
  deriving DecidableEq, Repr

def chomping? : Char → Option Chomping
  | '+' => some .keep
  | '-' => some .strip
  | _ => none

def increment (c : Char) : Nat := c.toNat - 0x30

def header : List Char → Except Fault (Header × Nat)
  | [] => .ok (⟨.clip, 0⟩, 0)
  | c :: text =>
    match chomping? c with
    | some chomping =>
      match text with
      | d :: _ =>
        if d = '0' then .error .blockHeader
        else if d.isDigit then .ok (⟨chomping, increment d⟩, 2)
        else .ok (⟨chomping, 0⟩, 1)
      | [] => .ok (⟨chomping, 0⟩, 1)
    | none =>
      if c = '0' then .error .blockHeader
      else if c.isDigit then
        match text.head?.bind chomping? with
        | some chomping => .ok (⟨chomping, increment c⟩, 2)
        | none => .ok (⟨.clip, increment c⟩, 1)
      else .ok (⟨.clip, 0⟩, 0)

structure Lead where
  count : Nat
  breaks : List Char
  widest : Nat

def leadFrom (indent column : Nat) (lead : Lead) : List Char → Except Fault Lead
  | [] => .ok { lead with widest := max lead.widest column }
  | c :: text =>
    let inside := indent == 0 || column < indent
    if inside && c == ' ' then leadFrom indent (column + 1) { lead with count := lead.count + 1 } text
    else if inside && c == '\t' then .error .tabInIndentation
    else
      let lead := { lead with widest := max lead.widest column }
      if isBreak c then
        leadFrom indent 0 { lead with count := lead.count + 1, breaks := lead.breaks ++ [c] } text
      else .ok lead

def lead (indent : Nat) (cursor : Cursor) : Except Fault (Lead × Cursor) :=
  (leadFrom indent cursor.column ⟨0, [], 0⟩ cursor.rest).map fun l => (l, cursor.skip l.count)

def between (literal : Bool) (lineBreak breaks : List Char) (spaced : Bool) : List Char :=
  if !literal && lineBreak == ['\n'] && !spaced then
    (if breaks.isEmpty then [' '] else breaks)
  else lineBreak ++ breaks

structure Lines where
  text : List Char
  lineBreak : List Char
  breaks : List Char
  cursor : Cursor

def loop (literal : Bool) (indent : Nat) : Nat → Bool → Lines → Except Fault Lines
  | 0, _, _ => .error .stepsUsedUp
  | n + 1, spacedBefore, lines =>
    match lines.cursor.rest with
    | [] => .ok lines
    | c :: _ =>
      if lines.cursor.column ≠ indent then .ok lines
      else do
        let spaced := isSpace c
        let joint := between literal lines.lineBreak lines.breaks (spacedBefore || spaced)
        let (content, cursor) := lines.cursor.span (!isBreak ·)
        let lineBreak := cursor.rest.take 1
        let (l, cursor) ← lead indent cursor.next
        loop literal indent n spaced ⟨lines.text ++ joint ++ content, lineBreak, l.breaks, cursor⟩

def read (literal : Bool) (parent : Option Nat) (cursor : Cursor) : Except Fault (List Char × Cursor) := do
  let cursor := cursor.next
  let (header, width) ← header cursor.rest
  let cursor ← (cursor.skip width).endLine .blockHeader
  let given := if header.increment = 0 then 0 else parent.getD 0 + header.increment
  let (l, cursor) ← lead given cursor
  let least := match parent with
    | some n => n + 1
    | none => 1
  let indent := if given = 0 then max l.widest least else given
  let lines ← loop literal indent (cursor.rest.length + 1) false ⟨[], [], l.breaks, cursor⟩
  let ending := match header.chomping with
    | .strip => []
    | .clip => lines.lineBreak
    | .keep => lines.lineBreak ++ lines.breaks
  return (lines.text ++ ending, lines.cursor)

end WorkflowScript.Yaml.Block
