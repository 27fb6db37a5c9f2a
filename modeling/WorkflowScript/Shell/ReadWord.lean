import WorkflowScript.Shell.Escape
import WorkflowScript.Shell.Source

namespace WorkflowScript.Shell

structure Mode where
  isQuoted : Bool
  ends : Chars → Bool
  singleQuotes : Bool
  doubleQuotes : Bool
  patterns : Bool
  groups : Bool
  escapable : Char → Bool
  closing : Option Char

namespace Mode

def isEscapable (c : Char) : Bool := c == '$' || c == backtick || c == '\\'

def endsBare : Chars → Bool
  | [] => false
  | c :: text => isMeta c && !((c == '<' || c == '>') && text.head? == some '(')

def bare (patterns : Bool) : Mode := ⟨false, endsBare, true, true, patterns, false, isEscapable, none⟩

def endsExpression (text : Chars) : Bool := text.head?.any fun c => isMeta c && c != '(' && c != '|'

def expression : Mode := ⟨false, endsExpression, true, true, false, true, isEscapable, none⟩

def startsWith (marks : List Char) (text : Chars) : Bool := text.head?.any marks.contains

def expressionGroup : Mode := ⟨false, startsWith [')'], true, true, false, true, isEscapable, some ')'⟩

def double : Mode :=
  ⟨true, startsWith ['"'], false, false, false, false, fun c => isEscapable c || c == '"', some '"'⟩

def document : Mode := ⟨true, fun _ => false, false, false, false, false, isEscapable, none⟩

def operand (isQuoted : Bool) (marks : List Char) (closing : Char) : Mode :=
  ⟨isQuoted, startsWith marks, !isQuoted, true, false, false,
    fun c => isEscapable c || c == '"' || c == closeBrace, some closing⟩

def patternGroup : Mode := ⟨false, startsWith [')'], true, true, true, false, isEscapable, some ')'⟩

end Mode

inductive Nesting where
  | paren (choices : Nat)
  | double
  | single
  | backquote
  | comment
  deriving DecidableEq, Repr

namespace Nesting

def startsKeyword (keyword : String) (before : Char) (text : Chars) : Bool :=
  !isNameChar before && keyword.toList.isPrefixOf text &&
    !((text.drop keyword.length).head?.any isNameChar)

def after (before c : Char) (text : Chars) : List Nesting → List Nesting
  | [] => []
  | .single :: outer => if c = '\'' then outer else .single :: outer
  | .comment :: outer => if c = '\n' then outer else .comment :: outer
  | .backquote :: outer => if c = backtick then outer else .backquote :: outer
  | .double :: outer =>
    if c = '"' then outer
    else if c = '(' ∧ before = '$' then .paren 0 :: .double :: outer
    else if c = backtick then .backquote :: .double :: outer
    else .double :: outer
  | .paren choices :: outer =>
    if c = '(' then .paren 0 :: .paren choices :: outer
    else if c = ')' then (if choices = 0 then outer else .paren choices :: outer)
    else if c = '\'' then .single :: .paren choices :: outer
    else if c = '"' then .double :: .paren choices :: outer
    else if c = backtick then .backquote :: .paren choices :: outer
    else if c = '#' ∧ (isBlank before ∨ before = '\n') then .comment :: .paren choices :: outer
    else if startsKeyword "case" before (c :: text) then .paren (choices + 1) :: outer
    else if startsKeyword "esac" before (c :: text) then .paren (choices - 1) :: outer
    else .paren choices :: outer

def span? (before : Char) (opened : List Nesting) : Chars → Option (Chars × Chars)
  | [] => none
  | '\\' :: c :: text =>
    if opened.head? = some .single then
      (span? '\\' opened (c :: text)).map fun r => ('\\' :: r.1, r.2)
    else (span? c opened text).map fun r => ('\\' :: c :: r.1, r.2)
  | c :: text =>
    match after before c text opened with
    | [] => some ([], text)
    | opened => (span? c opened text).map fun r => (c :: r.1, r.2)
termination_by text => text.length

end Nesting

def commandText? (text : Chars) : Option (Chars × Chars) := Nesting.span? ' ' [.paren 0] text

def expressionText? (depth : Nat) : Chars → Option (Chars × Chars)
  | [] => none
  | ')' :: text =>
    match depth with
    | 0 =>
      match text with
      | ')' :: rest => some ([], rest)
      | _ => none
    | depth + 1 => (expressionText? depth text).map fun r => (')' :: r.1, r.2)
  | c :: text => (expressionText? (if c = '(' then depth + 1 else depth) text).map fun r => (c :: r.1, r.2)

def backquoted? (inDouble : Bool) : Chars → Option (Chars × Chars)
  | [] => none
  | '\\' :: c :: text =>
    let taken := if Mode.isEscapable c || (inDouble && c == '"') then [c] else ['\\', c]
    (backquoted? inDouble text).map fun r => (taken ++ r.1, r.2)
  | c :: text =>
    if c = backtick then some ([], text) else (backquoted? inDouble text).map fun r => (c :: r.1, r.2)

def escapedText? : Chars → Option (Chars × Chars)
  | [] => none
  | '\\' :: c :: text => (escapedText? text).map fun r => ('\\' :: c :: r.1, r.2)
  | '\'' :: text => some ([], text)
  | c :: text => (escapedText? text).map fun r => (c :: r.1, r.2)

def bracedText? (quote : Option Char) (depth : Nat) : Chars → Option (Chars × Chars)
  | [] => none
  | '\\' :: c :: text =>
    if quote = some '\'' then (bracedText? quote depth (c :: text)).map fun r => ('\\' :: r.1, r.2)
    else (bracedText? quote depth text).map fun r => ('\\' :: c :: r.1, r.2)
  | c :: text =>
    let next (quote : Option Char) (depth : Nat) : Option (Chars × Chars) :=
      (bracedText? quote depth text).map fun r => (c :: r.1, r.2)
    match quote with
    | some q => next (if c = q then none else some q) depth
    | none =>
      if c = '"' ∨ c = backtick ∨ c = '\'' then next (some c) depth
      else if c = closeBrace then
        match depth with
        | 0 => some ([], text)
        | depth + 1 => next none depth
      else if c = '$' ∧ text.head? = some openBrace then next none (depth + 1)
      else next none depth
termination_by text => text.length

def bracketText? (depth : Nat) : Chars → Option (Chars × Chars)
  | [] => none
  | '[' :: text => (bracketText? (depth + 1) text).map fun r => ('[' :: r.1, r.2)
  | ']' :: text =>
    match depth with
    | 0 => some ([], text)
    | depth + 1 => (bracketText? depth text).map fun r => (']' :: r.1, r.2)
  | c :: text => (bracketText? depth text).map fun r => (c :: r.1, r.2)

namespace Reader

def inside {α : Type} (text : Chars) (reader : Reader α) : Reader α := do
  let source ← get
  setRest text
  let value ← reader
  set source
  return value

def demand {α : Type} (found : Option α) (fault : ReadFault) : Reader α :=
  match found with
  | some value => return value
  | none => fail fault

def isSpecialParameter (c : Char) : Bool :=
  c == '@' || c == '*' || c == '#' || c == '?' || c == '-' || c == '$' || c == '!'

def parameterName : Chars → Chars × Chars
  | [] => ([], [])
  | c :: text =>
    if isNameStart c then (c :: text.takeWhile isNameChar, text.dropWhile isNameChar)
    else if c.isDigit then (c :: text.takeWhile Char.isDigit, text.dropWhile Char.isDigit)
    else if isSpecialParameter c then ([c], text)
    else ([], c :: text)

section

variable (inner : Mode → Reader Word)

def operandUntil (isQuoted : Bool) (marks : List Char) : Reader Word :=
  inner (.operand isQuoted (closeBrace :: marks) closeBrace)

def replacement (scope : ReplaceScope) : Reader Operation := do
  let pattern ← operandUntil inner false ['/']
  if ← take? "/" then return .replace scope pattern (← operandUntil inner false [])
  else return .replace scope pattern []

def sliceFrom : Reader Operation := do
  let offset ← inner (.operand true [':', closeBrace] closeBrace)
  if ← take? ":" then return .slice offset (some (← inner (.operand true [closeBrace] closeBrace)))
  else return .slice offset none

def choice? (isQuoted emptyToo : Bool) (c : Char) : Option (Reader Operation) :=
  let word := operandUntil inner isQuoted []
  match c with
  | '-' => some do skip 1; return .orElse emptyToo (← word)
  | '=' => some do skip 1; return .assign emptyToo (← word)
  | '?' => some do skip 1; return .require emptyToo (← word)
  | '+' => some do skip 1; return .alternative emptyToo (← word)
  | _ => none

def operation? (isQuoted : Bool) : Reader (Option Operation) := do
  let pattern := operandUntil inner false []
  match ← rest with
  | [] => fail (.unclosed [closeBrace])
  | c :: text =>
    if c = closeBrace then return some .value
    else match choice? inner isQuoted false c with
    | some reader => return some (← reader)
    | none =>
      match c, text with
      | ':', d :: _ =>
        skip 1
        match choice? inner isQuoted true d with
        | some reader => return some (← reader)
        | none => return some (← sliceFrom inner)
      | '#', '#' :: _ => skip 2; return some (.removeStart true (← pattern))
      | '#', _ => skip 1; return some (.removeStart false (← pattern))
      | '%', '%' :: _ => skip 2; return some (.removeEnd true (← pattern))
      | '%', _ => skip 1; return some (.removeEnd false (← pattern))
      | '/', '/' :: _ => skip 2; return some (← replacement inner .all)
      | '/', '#' :: _ => skip 2; return some (← replacement inner .start)
      | '/', '%' :: _ => skip 2; return some (← replacement inner .stop)
      | '/', _ => skip 1; return some (← replacement inner .first)
      | '^', '^' :: _ => skip 2; return some (.changeCase true true (← pattern))
      | '^', _ => skip 1; return some (.changeCase true false (← pattern))
      | ',', ',' :: _ => skip 2; return some (.changeCase false true (← pattern))
      | ',', _ => skip 1; return some (.changeCase false false (← pattern))
      | '@', d :: _ => skip 2; return some (.transform d)
      | _, _ => return none

def subscript? : Reader (Option Word) := do
  if ← take? "[" then
    let word ← inner (.operand false [']'] ']')
    skip 1
    return some word
  else return none

def bracedFrom (isQuoted : Bool) (whole : Chars) : Reader Expansion := do
  let marked := match whole with
    | '#' :: c :: _ => c != closeBrace && (isNameStart c || c.isDigit || isSpecialParameter c)
    | '!' :: c :: _ => isNameStart c
    | _ => false
  let mark := whole.head?
  if marked then skip 1
  let (name, rest) := parameterName (← Reader.rest)
  let malformed : Reader Expansion := do
    let (text, rest) ← demand (bracedText? none 0 whole) (.unclosed [closeBrace])
    setRest rest
    return .malformed text
  if name.isEmpty then return ← malformed
  setRest rest
  let subscript ← subscript? inner
  match marked, mark, ← Reader.rest with
  | true, some '#', c :: _ =>
    if c = closeBrace then skip 1; return .parameter name subscript .length
  | true, some '!', '*' :: _ => skip 2; return .parameter name subscript .names
  | true, some '!', c :: _ =>
    if c = closeBrace then skip 1; return .parameter name subscript .indirect
  | _, _, _ => pure ()
  let operation ← operation? inner isQuoted
  match operation, (← Reader.rest) with
  | some operation, c :: _ =>
    if c = closeBrace ∧ marked = false then skip 1; return .parameter name subscript operation
  | _, [] => fail (.unclosed [closeBrace])
  | _, _ => pure ()
  malformed

def dollar (mode : Mode) (text : Chars) : Reader Word := do
  let expanded (expansion : Expansion) : Word := [.expansion expansion mode.isQuoted]
  match text with
  | '(' :: '(' :: after =>
    match expressionText? 0 after with
    | some (expression, rest) =>
      setRest rest
      return expanded (.arithmetic (← inside expression (inner .document)))
    | none =>
      let (command, rest) ← demand (commandText? ('(' :: after)) (.unclosed [')'])
      setRest rest
      return expanded (.command command)
  | '(' :: after =>
    let (command, rest) ← demand (commandText? after) (.unclosed [')'])
    setRest rest
    return expanded (.command command)
  | '[' :: after =>
    let (expression, rest) ← demand (bracketText? 0 after) (.unclosed [']'])
    setRest rest
    return expanded (.arithmetic (← inside expression (inner .document)))
  | c :: after =>
    if c = openBrace then
      setRest after
      return expanded (← bracedFrom inner mode.isQuoted after)
    else if c = '\'' ∧ mode.isQuoted = false then
      let (escaped, rest) ← demand (escapedText? after) (.unclosed ['\''])
      setRest rest
      return .ofText (Escape.replace .quoted escaped).1
    else if c = '"' ∧ mode.isQuoted = false then
      setRest text
      return []
    else if isNameStart c then
      setRest (after.dropWhile isNameChar)
      return expanded (.parameter (c :: after.takeWhile isNameChar) none .bare)
    else if c.isDigit || isSpecialParameter c then
      setRest after
      return expanded (.parameter [c] none .value)
    else
      setRest text
      return [if mode.isQuoted then .quoted '$' else .char '$']
  | [] =>
    setRest []
    return [if mode.isQuoted then .quoted '$' else .char '$']

def escaped (mode : Mode) (text : Chars) : Reader Word := do
  match text with
  | [] => skip 1; return [.quoted '\\']
  | '\n' :: _ => skip 2; return []
  | c :: _ =>
    if mode.isQuoted && !mode.escapable c then
      skip 1
      return [.quoted '\\']
    else
      skip 2
      return [.quoted c]

def piece (mode : Mode) (c : Char) (text : Chars) : Reader Word := do
  if c = '\\' then escaped mode text
  else if c = '\'' ∧ mode.singleQuotes = true then
    let (quoted, rest) := text.span (· != '\'')
    if rest.isEmpty then fail (.unclosed ['\''])
    else
      setRest (rest.drop 1)
      return .ofText quoted
  else if c = '"' ∧ mode.doubleQuotes = true then
    skip 1
    let word ← inner .double
    skip 1
    return .quotes :: word
  else if c = backtick then
    let (command, rest) ← demand (backquoted? mode.isQuoted text) (.unclosed [backtick])
    setRest rest
    return [.expansion (.command command) mode.isQuoted]
  else if c = '$' then dollar inner mode text
  else if (c = '<' ∨ c = '>') ∧ text.head? = some '(' ∧ mode.isQuoted = false then
    let (command, rest) ← demand (commandText? (text.drop 1)) (.unclosed [')'])
    setRest rest
    return [.expansion (.channel (c == '<') command) false]
  else if c = '(' ∧ mode.groups = true then
    skip 1
    let group ← inner .expressionGroup
    skip 1
    return .char '(' :: group ++ [.char ')']
  else if mode.patterns ∧ text.head? = some '(' ∧ c ∈ ['?', '*', '+', '@', '!'] then
    skip 2
    let group ← inner .patternGroup
    skip 1
    return .char c :: .char '(' :: group ++ [.char ')']
  else
    skip 1
    return [if mode.isQuoted then .quoted c else .char c]

end

def pieces : Nat → Mode → Reader Word
  | 0, _ => fail .stepsUsedUp
  | n + 1, mode => do
    match ← rest with
    | [] =>
      match mode.closing with
      | none => return []
      | some mark => fail (.unclosed [mark])
    | c :: text =>
      if mode.ends (c :: text) then return []
      else
        let first ← piece (pieces n) mode c text
        return first ++ (← pieces n mode)

def wordIn (mode : Mode) : Reader Word := do pieces ((← rest).length + 2) mode

def documentText (text : Chars) : Reader Word := inside text (wordIn .document)

end Reader

end WorkflowScript.Shell
