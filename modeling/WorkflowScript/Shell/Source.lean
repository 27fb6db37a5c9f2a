import WorkflowScript.Shell.Word

namespace WorkflowScript.Shell

inductive ReadFault where
  | unexpected (token : Chars)
  | unexpectedEnd
  | unclosed (mark : Chars)
  | unexpectedArgument (token : Chars)
  | stepsUsedUp
  deriving DecidableEq, Repr

def ReadFault.message : ReadFault → Chars
  | .unexpected token => "syntax error near unexpected token \x60".toList ++ token ++ ['\'']
  | .unexpectedEnd => "syntax error: unexpected end of file".toList
  | .unclosed mark => "unexpected EOF while looking for matching \x60".toList ++ mark ++ ['\'']
  | .unexpectedArgument token =>
    "unexpected argument \x60".toList ++ token ++ "' to conditional binary operator".toList
  | .stepsUsedUp => "text could not be read to its end".toList

structure Source where
  rest : Chars
  afterLine : Option Chars
  breaks : Nat

def countBreaks (text : Chars) : Nat := text.count '\n'

namespace Source

def ofText (text : Chars) : Source := ⟨text, none, countBreaks text⟩

def line (source : Source) : Nat := source.breaks - countBreaks source.rest + 1

end Source

abbrev Reader := StateT Source (Except ReadFault)

namespace Reader

def fail {α : Type} (fault : ReadFault) : Reader α := fun _ => .error fault

def rest : Reader Chars := return (← get).rest

def setRest (rest : Chars) : Reader Unit := modify fun source => { source with rest := rest }

def skip (n : Nat) : Reader Unit := modify fun source => { source with rest := source.rest.drop n }

def take? (text : String) : Reader Bool := do
  let source ← get
  if text.toList.isPrefixOf source.rest then
    set { source with rest := source.rest.drop text.length }
    return true
  else return false

def startsWith (text : String) : Reader Bool := return text.toList.isPrefixOf (← get).rest

def afterBlanks : Chars → Chars
  | [] => []
  | '\\' :: '\n' :: text => afterBlanks text
  | c :: text => if isBlank c then afterBlanks text else c :: text

def skipBlanks : Reader Unit := do
  let text := afterBlanks (← rest)
  setRest (if text.head? = some '#' then text.dropWhile (· != '\n') else text)

def takeBreak : Reader Unit :=
  modify fun source => { source with rest := source.afterLine.getD (source.rest.drop 1), afterLine := none }

def breaksFrom : Nat → Reader Unit
  | 0 => return ()
  | n + 1 => do
    skipBlanks
    if (← rest).head? = some '\n' then
      takeBreak
      breaksFrom n

def skipBreaks : Reader Unit := do breaksFrom ((← rest).length + 1)

def operators : List String :=
  ["&&", "||", ";;&", ";;", ";&", "|&", "<<<", "<<-", "<<", ">>", "<&", ">&", "<>", ">|", "&>>", "&>", ";",
    "&", "|", "(", ")", "<", ">"]

def tokenAt (text : Chars) : Chars :=
  match text with
  | [] => []
  | '\n' :: _ => "newline".toList
  | text =>
    match operators.find? fun operator => operator.toList.isPrefixOf text with
    | some operator => operator.toList
    | none => text.takeWhile fun c => !isMeta c

def unexpected {α : Type} : Reader α := do
  skipBlanks
  let text ← rest
  fail (if text.isEmpty then .unexpectedEnd else .unexpected (tokenAt text))

end Reader

def afterLineBreak (quote : Option Char) (atBlank : Bool) : Chars → Chars
  | [] => []
  | '\\' :: c :: text =>
    if quote = some '\'' then afterLineBreak quote false (c :: text) else afterLineBreak quote false text
  | c :: text =>
    match quote with
    | some q => afterLineBreak (if c = q then none else some q) false text
    | none =>
      if c = '\n' then text
      else if c = '\'' ∨ c = '"' ∨ c = backtick then afterLineBreak (some c) false text
      else if c = '#' ∧ atBlank = true then (text.dropWhile (· != '\n')).drop 1
      else afterLineBreak none (isBlank c || c == ';') text
termination_by text => text.length

end WorkflowScript.Shell
