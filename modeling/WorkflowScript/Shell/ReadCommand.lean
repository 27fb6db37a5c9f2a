import WorkflowScript.Shell.Command
import WorkflowScript.Shell.ReadWord

namespace WorkflowScript.Shell

namespace Word

def assigned? (name : Chars) (subscript : Option Word) : Word → Option Assignment
  | .char '=' :: value => some ⟨name, subscript, false, .word value⟩
  | .char '+' :: .char '=' :: value => some ⟨name, subscript, true, .word value⟩
  | _ => none

def assignment? (word : Word) : Option Assignment :=
  let (name, rest) := spanPlain isNameChar word
  if isName name then
    match rest with
    | .char '[' :: rest =>
      match bracketed? 0 rest with
      | some (subscript, rest) => assigned? name (some subscript) rest
      | none => none
    | rest => assigned? name none rest
  else none

end Word

namespace Reader

def keyword? (text : Chars) : Option String :=
  let isPlain (c : Char) : Bool :=
    !isMeta c && c != '\'' && c != '"' && c != '\\' && c != '$' && c != backtick
  let (word, rest) := text.span isPlain
  if word.isEmpty || !(rest.head?.all isMeta) then none else some (.ofList word)

def closers : List String := ["then", "elif", "else", "fi", "do", "done", "esac", "\x7d"]

def openBraceWord : String := "\x7b"

def closeBraceWord : String := "\x7d"

def nextKeyword? : Reader (Option String) := do
  skipBlanks
  return keyword? (← rest)

def expect (word : String) : Reader Unit := do
  if (← nextKeyword?) = some word then skip word.length else unexpected

section

-- Whether groups of patterns may be written in words.
variable (patterns : Bool)

def word : Reader Word := do
  skipBlanks
  let found ← wordIn (.bare patterns)
  if found.isEmpty then unexpected else return found

def continuedLine (joins : Bool) : Chars → Chars × Chars
  | [] => ([], [])
  | '\\' :: '\n' :: text =>
    if joins then
      let (line, rest) := continuedLine joins text
      (line, rest)
    else (['\\'], text)
  | '\\' :: c :: text =>
    let (line, rest) := continuedLine joins text
    ('\\' :: c :: line, rest)
  | '\n' :: text => ([], text)
  | c :: text =>
    let (line, rest) := continuedLine joins text
    (c :: line, rest)

def documentLines (strips joins : Bool) (delimiter : Chars) : Nat → Chars → Chars × Chars
  | 0, text => ([], text)
  | n + 1, text =>
    if text.isEmpty then ([], [])
    else
      let text := if strips then text.dropWhile (· == '\t') else text
      let (line, rest) := continuedLine joins text
      if line = delimiter then ([], rest)
      else
        let (more, rest) := documentLines strips joins delimiter n rest
        (line ++ '\n' :: more, rest)

def document (strips : Bool) : Reader Word := do
  let mark ← word patterns
  let delimiter := (mark.literal?).getD []
  let isQuoted := mark.isQuoted
  let source ← get
  let after := source.afterLine.getD (afterLineBreak none false source.rest)
  let (text, rest) := documentLines strips (!isQuoted) delimiter (after.length + 1) after
  set { source with afterLine := some rest }
  if isQuoted then return .ofText text else documentText text

def redirectOperators : List (String × RedirectKind) :=
  [("<<<", .string), ("<<-", .document), ("<<", .document), ("<&", .duplicate true), ("<>", .inputOutput),
    ("<", .input), (">>", .append), (">&", .duplicate false), (">|", .overwrite), (">", .output),
    ("&>>", .both true), ("&>", .both false)]

def redirect? : Reader (Option Redirect) := do
  let text ← rest
  let digits := text.takeWhile Char.isDigit
  let after := text.drop digits.length
  let isFile := after.head?.any (fun c => c == '<' || c == '>') && after.tail.head? == some '('
  let found := redirectOperators.find? fun operator => operator.1.toList.isPrefixOf after
  match found with
  | none => return none
  | some (operator, kind) =>
    if isFile ∨ (digits.length ≠ 0 ∧ operator.toList.head? = some '&') then return none
    skip (digits.length + operator.length)
    let descriptor := Text.digits? 10 digits
    let target ←
      if kind = .document then document patterns (operator == "<<-") else word patterns
    return some ⟨descriptor, kind, target⟩

def redirectsFrom : Nat → Reader (List Redirect)
  | 0 => return []
  | n + 1 => do
    skipBlanks
    match ← redirect? patterns with
    | none => return []
    | some redirect => return redirect :: (← redirectsFrom n)

def redirects : Reader (List Redirect) := do redirectsFrom patterns ((← rest).length + 1)

def withRedirects (command : Command) : Reader Command := do
  match ← redirects patterns with
  | [] => return command
  | redirects => return .redirected command redirects

def listItem (word : Word) : Option Word × Word :=
  match word with
  | .char '[' :: rest =>
    match Word.bracketed? 0 rest with
    | some (subscript, .char '=' :: value) => (some subscript, value)
    | _ => (none, word)
  | word => (none, word)

def listItemsFrom : Nat → Reader (List (Option Word × Word))
  | 0 => fail .stepsUsedUp
  | n + 1 => do
    skipBreaks
    if ← take? ")" then return []
    let item := listItem (← word patterns)
    return item :: (← listItemsFrom n)

def completed (assignment : Assignment) : Reader Assignment := do
  match assignment.value with
  | .word [] =>
    if ← take? "(" then
      return { assignment with value := .items (← listItemsFrom patterns ((← rest).length + 1)) }
    else return assignment
  | _ => return assignment

def declarers : List String := ["declare", "typeset", "local", "export", "readonly"]

structure SimpleCommand where
  assignments : List Assignment
  arguments : List Argument
  redirects : List Redirect
  declares : Bool

def SimpleCommand.addWord (word : Word) (command : SimpleCommand) : SimpleCommand :=
  let declares := match command.arguments with
    | [] => (word.plain?).any fun name => declarers.contains (.ofList name)
    | _ => command.declares
  { command with arguments := command.arguments ++ [.word word], declares := declares }

def SimpleCommand.isEmpty (command : SimpleCommand) : Bool :=
  command.assignments.isEmpty && command.arguments.isEmpty && command.redirects.isEmpty

def simpleFrom : Nat → SimpleCommand → Reader SimpleCommand
  | 0, _ => fail .stepsUsedUp
  | n + 1, command => do
    skipBlanks
    match ← redirect? patterns with
    | some redirect => simpleFrom n { command with redirects := command.redirects ++ [redirect] }
    | none =>
      let found ← wordIn (.bare patterns)
      if found.isEmpty then return command
      else
        match found.assignment? with
        | some assignment =>
          if command.arguments.isEmpty then
            let assignment ← completed patterns assignment
            simpleFrom n { command with assignments := command.assignments ++ [assignment] }
          else if command.declares then
            let assignment ← completed patterns assignment
            simpleFrom n { command with arguments := command.arguments ++ [.assignment assignment] }
          else simpleFrom n (command.addWord found)
        | none => simpleFrom n (command.addWord found)

def definedName? (command : SimpleCommand) : Option Chars :=
  match command.assignments, command.arguments, command.redirects with
  | [], [.word word], [] => word.plain?
  | _, _, _ => none

section

-- Reads the list of commands inside another one.
variable (inner : Reader Command)

def branchesFrom : Nat → Reader Command
  | 0 => fail .stepsUsedUp
  | n + 1 => do
    let condition ← inner
    expect "then"
    let body ← inner
    match ← nextKeyword? with
    | some "elif" =>
      skip 4
      return .branch condition body (← branchesFrom n)
    | some "else" =>
      skip 4
      let otherwise ← inner
      expect "fi"
      return .branch condition body otherwise
    | _ =>
      expect "fi"
      return .branch condition body .nothing

def doGroup : Reader Command := do
  skipBreaks
  if (← nextKeyword?) = some openBraceWord then
    skip 1
    let body ← inner
    expect closeBraceWord
    return body
  else
    expect "do"
    let body ← inner
    expect "done"
    return body

def wordsFrom : Nat → Reader (List Word)
  | 0 => fail .stepsUsedUp
  | n + 1 => do
    skipBlanks
    let found ← wordIn (.bare patterns)
    if found.isEmpty then return [] else return found :: (← wordsFrom n)

def loopSeparator : Reader Unit := do
  skipBlanks
  if (← startsWith ";") ∧ ¬ (← startsWith ";;") then skip 1

def countedLoop (expression : Chars) : Reader Command := do
  let parts := expression.splitOn ';'
  match parts with
  | [start, test, step] =>
    loopSeparator
    let body ← doGroup inner
    return .forCount (← documentText start) (← documentText test) (← documentText step) body
  | _ => unexpected

def loopHead : Reader (Chars × Option (List Word)) := do
  match (← word patterns).plain? with
  | none => fail (.unexpected [])
  | some name =>
    skipBreaks
    if (← nextKeyword?) = some "in" then
      skip 2
      let words ← wordsFrom patterns ((← rest).length + 1)
      loopSeparator
      return (name, some words)
    else
      loopSeparator
      return (name, none)

def selection : Reader Command := do
  skipBlanks
  let (name, words) ← loopHead patterns
  return .select name words (← doGroup inner)

def forLoop : Reader Command := do
  skipBlanks
  match ← rest with
  | '(' :: '(' :: after =>
    let (expression, rest) ← demand (expressionText? 0 after) (.unclosed [')'])
    setRest rest
    countedLoop inner expression
  | _ =>
    let (name, words) ← loopHead patterns
    return .forEach name words (← doGroup inner)
def patternsFrom : Nat → Reader (List Word)
  | 0 => fail .stepsUsedUp
  | n + 1 => do
    let pattern ← word patterns
    skipBlanks
    if ← take? "|" then return pattern :: (← patternsFrom n)
    else if ← take? ")" then return [pattern]
    else unexpected

def clauseEnd : Reader ClauseEnd := do
  skipBreaks
  if ← take? ";;&" then return .testNext
  else if ← take? ";;" then return .leave
  else if ← take? ";&" then return .fallThrough
  else return .leave

def clauseBody : Reader Command := do
  skipBreaks
  if (← startsWith ";;") ∨ (← startsWith ";&") ∨ (← nextKeyword?) = some "esac" then return .nothing
  else inner

def clausesFrom : Nat → Reader (List (List Word × Command × ClauseEnd))
  | 0 => fail .stepsUsedUp
  | n + 1 => do
    skipBreaks
    if (← nextKeyword?) = some "esac" then
      skip 4
      return []
    let _ ← take? "("
    let choices ← patternsFrom patterns ((← rest).length + 1)
    let body ← clauseBody inner
    let ending ← clauseEnd
    return (choices, body, ending) :: (← clausesFrom n)

def choice : Reader Command := do
  let subject ← word patterns
  skipBreaks
  expect "in"
  return .choose subject (← clausesFrom patterns inner ((← rest).length + 1))

def unaryOperators : List String :=
  ["-a", "-b", "-c", "-d", "-e", "-f", "-g", "-h", "-k", "-n", "-o", "-p", "-r", "-s", "-t", "-u", "-v",
    "-w", "-x", "-z", "-G", "-L", "-N", "-O", "-R", "-S"]

def binaryOperators : List String :=
  ["==", "=", "!=", "=~", "-eq", "-ne", "-lt", "-le", "-gt", "-ge", "-nt", "-ot", "-ef"]

def conditionWord : Reader Word := word true

def comparison : Reader Condition := do
  let left ← conditionWord
  skipBlanks
  let isClosed := (← nextKeyword?) == some "]]" || (← startsWith "&&") || (← startsWith "||") ||
    (← startsWith ")")
  match left.plain?.map String.ofList with
  | some operator =>
    if unaryOperators.contains operator then
      if isClosed then fail (.unexpectedArgument (tokenAt (← rest)))
      return .unary operator.toList (← conditionWord)
  | none => pure ()
  if isClosed then return .word left
  else if ← take? "<" then return .binary ['<'] left (← conditionWord)
  else if ← take? ">" then return .binary ['>'] left (← conditionWord)
  else
    let operator ← conditionWord
    match operator.plain?.map String.ofList with
    | some "=~" =>
      skipBlanks
      return .binary "=~".toList left (← wordIn .expression)
    | some name =>
      if name ∈ binaryOperators then return .binary name.toList left (← conditionWord)
      else fail (.unexpectedArgument name.toList)
    | none => unexpected

mutual

def eitherFrom : Nat → Reader Condition
  | 0 => fail .stepsUsedUp
  | n + 1 => do
    let left ← bothFrom n
    skipBreaks
    if ← take? "||" then
      skipBreaks
      return .either left (← eitherFrom n)
    else return left
termination_by structural n => n

def bothFrom : Nat → Reader Condition
  | 0 => fail .stepsUsedUp
  | n + 1 => do
    let left ← termFrom n
    skipBreaks
    if ← take? "&&" then
      skipBreaks
      return .both left (← bothFrom n)
    else return left
termination_by structural n => n

def termFrom : Nat → Reader Condition
  | 0 => fail .stepsUsedUp
  | n + 1 => do
    skipBreaks
    if (← nextKeyword?) = some "!" then
      skip 1
      return .negation (← termFrom n)
    else if ← take? "(" then
      let condition ← eitherFrom n
      skipBreaks
      if ← take? ")" then return condition else unexpected
    else comparison
termination_by structural n => n

end

def conditionCommand (line : Nat) : Reader Command := do
  let condition ← eitherFrom (3 * (← rest).length + 3)
  skipBreaks
  expect "]]"
  return .condition line condition

def arithmeticOrSubshell (line : Nat) (text : Chars) : Reader Command := do
  match text with
  | '(' :: '(' :: after =>
    match expressionText? 0 after with
    | some (expression, rest) =>
      setRest rest
      return .arithmetic line (← documentText expression)
    | none => pure ()
  | _ => pure ()
  skip 1
  let body ← inner
  skipBlanks
  if ← take? ")" then return .subshell body else unexpected

def compound? : Reader (Option Command) := do
  skipBlanks
  let line := (← get).line
  let text ← rest
  if text.head? = some '(' then return some (← arithmeticOrSubshell inner line text)
  match keyword? text with
  | some "if" => skip 2; return some (← branchesFrom inner ((← rest).length + 1))
  | some "while" =>
    skip 5
    let condition ← inner
    return some (.loop false condition (← doGroup inner))
  | some "until" =>
    skip 5
    let condition ← inner
    return some (.loop true condition (← doGroup inner))
  | some "for" => skip 3; return some (← forLoop patterns inner)
  | some "select" => skip 6; return some (← selection patterns inner)
  | some "case" => skip 4; return some (← choice patterns inner)
  | some "[[" => skip 2; return some (← conditionCommand line)
  | some word =>
    if word = openBraceWord then
      skip 1
      let body ← inner
      expect closeBraceWord
      return some (.group body)
    else return none
  | none => return none

def definition (name : Chars) : Reader Command := do
  skipBreaks
  match ← compound? patterns inner with
  | some body => return .define name (← withRedirects patterns body)
  | none => unexpected

def functionCommand : Reader Command := do
  let name ← word patterns
  skipBlanks
  if ← take? "(" then
    skipBlanks
    if ← take? ")" then pure () else unexpected
  match name.literal? with
  | some name => definition patterns inner name
  | none => unexpected

def command : Reader Command := do
  match ← compound? patterns inner with
  | some command => withRedirects patterns command
  | none =>
    match ← nextKeyword? with
    | some "function" => skip 8; functionCommand patterns inner
    | some "coproc" => skip 6; return .partner (← partnerBody)
    | some word =>
      if word ∈ closers ∨ word = "]]" ∨ word = "in" then unexpected else simple
    | none => simple
where
  partnerBody : Reader Command := do
    match ← compound? patterns inner with
    | some command => withRedirects patterns command
    | none =>
      let before ← get
      let _ ← word patterns
      match ← compound? patterns inner with
      | some command => withRedirects patterns command
      | none =>
        set before
        simple
  simple : Reader Command := do
    let line := (← get).line
    let found ← simpleFrom patterns ((← rest).length + 1) ⟨[], [], [], false⟩
    if found.isEmpty then unexpected
    else if ← startsWith "(" then
      match definedName? found with
      | some name =>
        skip 1
        skipBlanks
        if ← take? ")" then definition patterns inner name else unexpected
      | none => unexpected
    else return .simple line found.assignments found.arguments found.redirects

def stagesFrom : Nat → Reader (List (Command × Bool))
  | 0 => fail .stepsUsedUp
  | n + 1 => do
    let stage ← command patterns inner
    skipBlanks
    if ← startsWith "||" then return [(stage, false)]
    else if ← take? "|&" then
      skipBreaks
      return (stage, true) :: (← stagesFrom n)
    else if ← take? "|" then
      skipBreaks
      return (stage, false) :: (← stagesFrom n)
    else return [(stage, false)]

def pipelineFrom : Nat → Bool → Reader Command
  | 0, _ => fail .stepsUsedUp
  | n + 1, negated => do
    match ← nextKeyword? with
    | some "!" => skip 1; pipelineFrom n (!negated)
    | some "time" =>
      skip 4
      if (← nextKeyword?) = some "-p" then skip 2
      pipelineFrom n negated
    | _ =>
      skipBlanks
      if (← rest).head?.all fun c => c == '\n' || c == ';' then return .pipeline negated [(.nothing, false)]
      match negated, ← stagesFrom patterns inner ((← rest).length + 1) with
      | false, [(stage, _)] => return stage
      | _, stages => return .pipeline negated stages

def pipeline : Reader Command := do
  match ← nextKeyword? with
  | some "!" | some "time" => pipelineFrom patterns inner ((← rest).length + 1) false
  | _ =>
    match ← stagesFrom patterns inner ((← rest).length + 1) with
    | [(stage, _)] => return stage
    | stages => return .pipeline false stages

def linksFrom : Nat → Command → Reader Command
  | 0, _ => fail .stepsUsedUp
  | n + 1, left => do
    skipBlanks
    if ← take? "&&" then
      skipBreaks
      linksFrom n (.andThen left (← pipeline patterns inner))
    else if ← take? "||" then
      skipBreaks
      linksFrom n (.orElse left (← pipeline patterns inner))
    else return left

def chain : Reader Command := do linksFrom patterns inner ((← rest).length + 1) (← pipeline patterns inner)

def endsList : Reader Bool := do
  let next ← nextKeyword?
  let text ← rest
  return text.isEmpty || text.head? == some ')' || text.head? == some '\n' ||
    ";;".toList.isPrefixOf text || ";&".toList.isPrefixOf text || next.any closers.contains

def joined (before : Option Command) (command : Command) : Command :=
  match before with
  | none => command
  | some before => .sequence before command

def listFrom (acrossLines : Bool) : Nat → Option Command → Reader Command
  | 0, _ => fail .stepsUsedUp
  | n + 1, before => do
    let next ← chain patterns inner
    skipBlanks
    let isBackground ← isMark '&'
    let next := joined before (if isBackground then .background next else next)
    let isSeparated ← if isBackground then skip 1; pure true else do
      if (← isMark ';') then skip 1; pure true
      else pure false
    let atBreak := (← rest).head? == some '\n'
    if acrossLines && (isSeparated || atBreak) then skipBreaks
    if !(isSeparated || (acrossLines && atBreak)) || (← endsList) then return next
    else listFrom acrossLines n (some next)
where
  isMark (mark : Char) : Reader Bool := do
    match ← rest with
    | c :: text => return c == mark && text.head? != some mark && !(mark == ';' && text.head? == some '&')
    | [] => return false

end

def compoundList : Nat → Reader Command
  | 0 => fail .stepsUsedUp
  | n + 1 => do
    skipBreaks
    listFrom patterns (compoundList n) true ((← rest).length + 1) none

def line? : Reader (Option Command) := do
  skipBreaks
  let text ← rest
  if text.isEmpty then return none
  let inner := compoundList patterns (text.length + 1)
  let command ← listFrom patterns inner false (text.length + 1) none
  skipBlanks
  match ← rest with
  | [] => return some command
  | '\n' :: _ =>
    takeBreak
    return some command
  | _ => unexpected

end

end Reader

end WorkflowScript.Shell
