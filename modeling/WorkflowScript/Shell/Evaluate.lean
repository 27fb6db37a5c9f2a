import WorkflowScript.Shell.Program

namespace WorkflowScript.Shell

namespace Command

def steps : Command → List Command
  | .sequence left right => steps left ++ [right]
  | command => [command]

end Command

namespace Execution

def guarded (action : Execution Unit) : Execution Unit := do
  let before := (← process).isGuarded
  changeProcess fun p => { p with isGuarded := true }
  ensuring action (changeProcess fun p => { p with isGuarded := before })

def setStageStatuses (statuses : List Nat) : Execution Unit :=
  putVariable "PIPESTATUS".toList
    { Variable.undeclared with value := some (.list (statuses.zipIdx.map fun s => (s.2, ofNat s.1))) }

section

variable (perform : Perform)

def runTrap (name : String) : Execution Unit := do
  let p ← process
  match p.traps.lookup name with
  | none | some [] => return ()
  | some text =>
    changeProcess fun p => { p with traps := p.traps.filter (·.1 != name) }
    perform (.text text)
    changeProcess fun after =>
      let isReplaced := after.traps.any (·.1 == name)
      { after with status := p.status, traps := if isReplaced then after.traps else (name, text) :: after.traps }

def checkFailure : Execution Unit := do
  let p ← process
  if p.status ≠ 0 ∧ p.isGuarded = false then
    runTrap perform "ERR"
    if ← hasOption "errexit" then throw (.failure p.status false)

def itemsOf (items : List (Option Word × Word)) : Execution (List (Option Chars × Chars)) := do
  let found ← items.mapM fun (key, word) => do
    match key with
    | some key => return [(some (← textOf perform key), ← assignedText perform word)]
    | none => return (← expand perform word).map fun text => (none, text)
  return found.flatten

def assignNow (a : Assignment) : Execution Unit := do
  match a.value with
  | .items items => assignItems a.name a.appending (← itemsOf perform items)
  | .word word =>
    let subscript ← match a.subscript with
      | none => pure none
      | some word => pure (some (← textOf perform word))
    assign a.name subscript a.appending (← assignedText perform word)

def assignmentWord (a : Assignment) (value : Word) : Word :=
  let place := match a.subscript with
    | none => []
    | some key => .char '[' :: key ++ [.char ']']
  a.name.map .char ++ place ++ (if a.appending then [.char '+', .char '='] else [.char '=']) ++ value

def argumentsOf : Argument → Execution (List Declared)
  | .word word => do return (← expand perform word).map .word
  | .assignment a => do
    match a.value with
    | .items items => return [.list a.name a.appending (← itemsOf perform items)]
    | .word word =>
      if (← hasOption "braceexpand") && 1 < (Brace.expand word).length then
        return (← expand perform (assignmentWord a word)).map .word
      let place ← match a.subscript with
        | none => pure a.name
        | some key => pure (a.name ++ '[' :: (← textOf perform key) ++ [']'])
      let mark := if a.appending then ['+', '='] else ['=']
      return [.word (place ++ mark ++ (← assignedText perform word))]

def declaredText : Declared → Chars
  | .word text => text
  | .list name _ _ => name

def withAssignments (assignments : List Assignment) (action : Execution Unit) : Execution Unit := do
  if assignments.isEmpty then action
  else
    let p ← process
    let before := assignments.map fun a => (a.name, p.store.lookup a.name)
    for a in assignments do
      if (p.store.lookup a.name).any Variable.isReadOnly then
        complainGravely (a.name ++ ": readonly variable".toList)
      else assignAlone a
    ensuring action (restore before)
where
  assignAlone (a : Assignment) : Execution Unit := do
    match a.subscript, a.value with
    | none, .word word =>
      let text ← assignedText perform word
      let old ← if a.appending then scalar? a.name else pure none
      putVariable a.name
        { Variable.undeclared with value := some (.text (old.getD [] ++ text)), isExported := true }
    | _, _ =>
      assignNow perform a
      let v := (← variableAt? a.name).getD .undeclared
      putVariable a.name { v with isExported := true }

def hiddenTraps : Execution (List String) := do
  let ofErrors := if ← hasOption "errtrace" then [] else ["ERR"]
  let others := if ← hasOption "functrace" then [] else ["DEBUG", "RETURN"]
  return ofErrors ++ others

def untilReturn (action : Execution Unit) : Execution Unit := do
  tryCatch action fun signal =>
    match signal with
    | .leaveFunction status => setStatus status
    | signal => throw signal
  runTrap perform "RETURN"

def callFunction (body : Command) (arguments : List Chars) : Execution Unit := do
  let before ← process
  let names ← hiddenTraps
  let hidden := before.traps.filter fun trap => names.contains trap.1
  changeProcess fun p =>
    { p with
      arguments := arguments, frames := [] :: p.frames, loops := 0
      traps := p.traps.filter fun trap => !hidden.contains trap }
  ensuring (untilReturn perform (perform (.command body))) do
    restore ((← process).frames.head?.getD [])
    changeProcess fun p =>
      { p with
        arguments := before.arguments, frames := before.frames, loops := before.loops
        traps := p.traps ++ hidden.filter fun trap => !(p.traps.any (·.1 == trap.1)) }

def keywords : List String :=
  ["if", "then", "else", "elif", "fi", "case", "esac", "for", "select", "while", "until", "do", "done", "in",
    "function", "time", "\x7b", "\x7d", "!", "[[", "]]", "coproc"]

def kindOf (name : Chars) : Execution (Option String) := do
  if keywords.contains (toPath name) then return some "keyword"
  else if (← process).functions.any (·.1 == name) then return some "function"
  else if isBuiltin (toPath name) then return some "builtin"
  else
    match ← findProgram name with
    | .system _ _ | .script _ => return some "file"
    | _ => return none

def programPath (name : Chars) : Execution Chars := do
  match ← findProgram name with
  | .system _ path | .script path => return path
  | _ => return []

def describe (command : String) (name : Chars) : Execution Bool := do
  match ← kindOf name with
  | some "keyword" => printLine (name ++ " is a shell keyword".toList)
  | some "function" => printLine (name ++ " is a function".toList)
  | some "builtin" => printLine (name ++ " is a shell builtin".toList)
  | some _ => printLine (name ++ " is ".toList ++ (← programPath name))
  | none => complainOf command (name ++ ": not found".toList)
  return (← kindOf name).isSome

def describeShortly (name : Chars) : Execution Bool := do
  match ← kindOf name with
  | none => return false
  | some "file" =>
    printLine (← programPath name)
    return true
  | some _ =>
    printLine name
    return true

def type (words : List Chars) : Execution Nat := do
  match Options.read (.first "afptP" "") words with
  | .error _ =>
    complainOf "type" "invalid option".toList
    return 2
  | .ok options =>
    let done ← options.operands.mapM fun name => do
      let kind ← kindOf name
      if options.has 't' then
        match kind with
        | some kind => printString (kind ++ "\n")
        | none => pure ()
        return kind.isSome
      else if options.has 'p' || options.has 'P' then
        let path ← programPath name
        let shows := !path.isEmpty && (kind == some "file" || options.has 'P')
        if shows then printLine path
        return shows || (kind.isSome && !options.has 'P')
      else describe "type" name
    return statusOf (done.all id)

def source (command : String) (words : List Chars) : Execution Unit := do
  match withoutDashes words with
  | [] =>
    complainOf command "filename argument required".toList
    setStatus 2
  | name :: arguments =>
    let directories := ((← scalar? "PATH".toList).getD []).splitOn ':'
    let candidates := if name.contains '/' then [name] else directories.map (· ++ '/' :: name) ++ [name]
    let files ← files
    let path := (candidates.find? fun path => files.isFile (toPath path)).getD name
    match ← contentOf path with
    | .error fault =>
      complainHere (name ++ ": ".toList ++ reason fault)
      setStatus 1
    | .ok text =>
      let before ← process
      changeProcess fun p =>
        { p with sources := p.sources + 1, arguments := if arguments.isEmpty then p.arguments else arguments }
      ensuring (untilReturn perform (perform (.text (text ++ ['\n']))))
        (changeProcess fun p =>
          { p with sources := before.sources
                   arguments := if arguments.isEmpty then p.arguments else before.arguments })

def plainCommand (words : List Chars) : Execution Unit := do
  match Options.read (.first "pvV" "") words with
  | .error _ =>
    complainOf "command" "invalid option".toList
    setStatus 2
  | .ok options =>
    if options.operands.isEmpty then setStatus 0
    else if options.has 'v' || options.has 'V' then
      let found ← options.operands.mapM fun name =>
        if options.has 'V' then describe "command" name else describeShortly name
      setStatus (statusOf (found.any id))
    else perform (.words .noFunction options.operands)

def replaceShell (words : List Chars) : Execution Unit := do
  match Options.read (.first "cl" "a") words with
  | .error _ =>
    complainOf "exec" "invalid option".toList
    setStatus 2
  | .ok options =>
    match options.operands with
    | [] => setStatus 0
    | name :: arguments =>
      match ← findProgram name with
      | .missing =>
        complainOf "exec" (name ++ ": not found".toList)
        if ← hasHabit "execfail" then setStatus statusUnknown else throw (.exit statusUnknown)
      | .refused text status =>
        complainHere text
        if ← hasHabit "execfail" then setStatus status else throw (.exit status)
      | _ =>
        let status ← runProgram perform name arguments
        setTrap exitTrap none
        throw (.exit status)

def runUnknown (name : Chars) (words : List Chars) : Execution Unit := do
  let handler := (← process).functions.lookup "command_not_found_handle".toList
  match ← findProgram name, handler with
  | .missing, some body =>
    let status ← subshell perform (callFunction perform body (name :: words))
    setStatus status
  | _, _ => setStatus (← runProgram perform name words)

def runBuiltin (name : Chars) (arguments : List Declared) : Execution Unit := do
  let words := arguments.map declaredText
  match String.ofList name with
  | "." => source perform "." words
  | "source" => source perform "source" words
  | "builtin" =>
    match withoutDashes words with
    | [] => setStatus 0
    | words => perform (.words .builtin words)
  | "command" => plainCommand perform words
  | "eval" =>
    match withoutDashes words with
    | ('-' :: c :: _) :: _ =>
      complainOf "eval" (['-', c] ++ ": invalid option".toList)
      setStatus 2
    | words => perform (.text ([' '].intercalate words))
  | "exec" => replaceShell perform words
  | "type" => setStatus (← type words)
  | "wait" =>
    settle perform
    setStatus (← waitFor words)
  | other =>
    if declarers.contains other then setStatus (← declare name arguments)
    else
      match builtins.lookup other with
      | some run => setStatus (← run words)
      | none => setStatus statusUnknown

def runNamed (meaning : Meaning) (name : Chars) (arguments : List Declared) : Execution Unit := do
  let p ← process
  let functions := if meaning = .any then p.functions else []
  match functions.lookup name with
  | some body => callFunction perform body (arguments.map declaredText)
  | none =>
    if meaning ≠ .program ∧ isBuiltin (toPath name) = true then
      tryCatch (runBuiltin perform name arguments) fun signal =>
        match signal with
        | .failure status _ => throw (.failure status true)
        | signal => throw signal
    else if meaning = .builtin then
      complainOf "builtin" (name ++ ": not a shell builtin".toList)
      setStatus 1
    else runUnknown perform name (arguments.map declaredText)

def runAssignments (assignments : List Assignment) (redirects : List Redirect) : Execution Unit := do
  for a in assignments do assignNow perform a
  let status := (← process).substituted.getD 0
  withRedirects perform redirects (setStatus status) (pure ())

def runSimple (line : Nat) (assignments : List Assignment) (arguments : List Argument)
    (redirects : List Redirect) : Execution Unit := do
  changeProcess fun p => { p with line := line, substituted := none }
  runTrap perform "DEBUG"
  match (← arguments.mapM (argumentsOf perform)).flatten with
  | [] => runAssignments perform assignments redirects
  | first :: rest =>
    let name := declaredText first
    if name.head? = some '%' then
      complainOf "fg" "no job control".toList
      setStatus 1
    else if name = "exec".toList ∧ (Options.read (.first "cl" "a") (rest.map declaredText)).toOption.any
        (fun options => options.operands.isEmpty) = true then
      for a in assignments do assignNow perform a
      setStatus (statusOf (← redirectAll perform redirects))
    else
      withAssignments perform assignments do
        withRedirects perform redirects (runNamed perform .any name rest) (pure ())
  setStageStatuses [(← process).status]
  checkFailure perform

def holds (condition : Command) : Execution Bool := do
  guarded (perform (.command condition))
  return (← process).status == 0

inductive Round where
  | goesOn
  | ends
  deriving DecidableEq, Repr

def round (action : Execution Round) : Execution Round :=
  tryCatch action fun signal =>
    match signal with
    | .leaveLoops levels => if levels ≤ 1 then return .ends else throw (.leaveLoops (levels - 1))
    | .nextRound levels => if levels ≤ 1 then return .goesOn else throw (.nextRound (levels - 1))
    | signal => throw signal

def mostRounds : Nat := 1000000

def repeatRounds (action : Nat → Execution Round) : Nat → Nat → Execution Unit
  | 0, _ => return ()
  | n + 1, last => do
    match ← round (action last) with
    | .goesOn => repeatRounds action n (← process).status
    | .ends => return ()

def inLoop (action : Execution Unit) : Execution Unit := do
  let before := (← process).loops
  changeProcess fun p => { p with loops := p.loops + 1 }
  ensuring action (changeProcess fun p => { p with loops := before })

def runLoop (isUntil : Bool) (condition body : Command) : Execution Unit := do
  let once (last : Nat) : Execution Round := do
    if (← holds perform condition) != isUntil then
      perform (.command body)
      return .goesOn
    else
      setStatus last
      return .ends
  inLoop (repeatRounds once mostRounds 0)

def runForEach (name : Chars) (words : Option (List Word)) (body : Command) : Execution Unit := do
  let values ← match words with
    | some words => do pure (← words.mapM (expand perform)).flatten
    | none => do pure (← process).arguments
  if values.isEmpty then setStatus 0 else inLoop (eachFrom values)
where
  eachFrom : List Chars → Execution Unit
    | [] => return ()
    | value :: values => do
      if (← variableAt? name).any Variable.isReadOnly then
        complainGravely (name ++ ": readonly variable".toList)
        setStatus 1
        return ()
      let next ← round do
        assign name none false value
        perform (.command body)
        return .goesOn
      match next with
      | .goesOn => eachFrom values
      | .ends => return ()

def expressionValue (word : Word) (empty : Int) : Execution Int := do
  let text ← expressionOf perform word
  if text.all Arithmetic.isSpace then return empty else evaluate text

def runForCount (start test step : Word) (body : Command) : Execution Unit := do
  let _ ← expressionValue perform start 1
  let once (last : Nat) : Execution Round := do
    if (← expressionValue perform test 1) = 0 then
      setStatus last
      return .ends
    let next ← round do
      perform (.command body)
      return .goesOn
    if next = .ends then return .ends
    let _ ← expressionValue perform step 1
    return .goesOn
  inLoop (repeatRounds once mostRounds 0)

def showItems (items : List Chars) : Execution Unit := do
  let _ ← write 2 (items.zipIdx.flatMap fun item => ofNat (item.2 + 1) ++ ") ".toList ++ item.1 ++ ['\n'])

def askAgain (items : List Chars) : Nat → Execution (Option Chars)
  | 0 => return none
  | n + 1 => do
    if (← readLine []) ≠ 0 then return none
    match ← scalarOf "REPLY" with
    | [] =>
      showItems items
      askAgain items n
    | reply => return some reply

def mostQuestions : Nat := 10000

def runSelect (name : Chars) (words : Option (List Word)) (body : Command) : Execution Unit := do
  let items ← match words with
    | some words => do pure (← words.mapM (expand perform)).flatten
    | none => do pure (← process).arguments
  let once (_ : Nat) : Execution Round := do
    match ← askAgain items mostQuestions with
    | none =>
      printLine []
      setStatus 1
      return .ends
    | some reply =>
      let item := (Text.digits? 10 reply).bind fun n => if n = 0 then none else items[n - 1]?
      assign name none false (item.getD [])
      perform (.command body)
      return .goesOn
  if items.isEmpty then setStatus 0
  else
    showItems items
    inLoop (repeatRounds once mostRounds 0)

def runClauses (text : Chars) (hasRun runs : Bool) : List (List Word × Command × ClauseEnd) → Execution Unit
  | [] => unless hasRun do setStatus 0
  | (patterns, body, clauseEnd) :: clauses => do
    let fits ← if runs then pure true else anyFits patterns
    if fits then
      perform (.command body)
      match clauseEnd with
      | .leave => return ()
      | .fallThrough => runClauses text true true clauses
      | .testNext => runClauses text true false clauses
    else runClauses text hasRun false clauses
where
  anyFits : List Word → Execution Bool
    | [] => return false
    | pattern :: patterns => do if ← matchesPattern perform pattern text then return true else anyFits patterns

def runArithmetic (line : Nat) (expression : Word) : Execution Unit := do
  changeProcess fun p => { p with line := line, substituted := none }
  let text ← expressionOf perform expression
  let status ← tryCatch (do
      match ← evaluate? text with
      | .ok value => return if value = 0 then 1 else 0
      | .error fault =>
        complainOfExpression "((: ".toList fault
        return 1) fun signal =>
    match signal with
    | .discard _ => return 1
    | signal => throw signal
  setStatus status
  checkFailure perform

def isLoneBuiltin (command : Command) : Execution Bool := do
  match command with
  | .simple _ _ (.word word :: _) _ =>
    let isFunction (name : Chars) : Execution Bool := return (← process).functions.any (·.1 == name)
    match word.literal? with
    | some name => return isBuiltin (toPath name) && !(← isFunction name)
    | none => return false
  | _ => return false

def runStage (stage : Command) : Execution Unit := do
  let isLone ← isLoneBuiltin stage
  tryCatch (perform (.command stage)) fun signal =>
    match signal with
    | .failure _ true => if isLone then throw (.failure 1 true) else throw signal
    | signal => throw signal

def runStages (input : Option Nat) : List (Command × Bool) → Execution (List Nat)
  | [] => return []
  | (stage, withErrors) :: stages => do
    settle perform
    let output ← if stages.isEmpty then pure none else some <$> openChannel (.pipe [])
    let status ← subshell perform do
      match input with
      | some number => setDescriptor 0 number
      | none => pure ()
      match output with
      | some number =>
        setDescriptor 1 number
        if withErrors then setDescriptor 2 number
      | none => pure ()
      runStage perform stage
    unless stages.isEmpty do settle perform
    return status :: (← runStages output stages)

def runNegated (action : Execution Unit) : Execution Unit := do
  guarded action
  changeProcess fun p => { p with status := if p.status = 0 then 1 else 0 }

def runPipeline (negated : Bool) (stages : List (Command × Bool)) : Execution Unit := do
  match negated, stages with
  | true, [(.redirected body redirects, _)] =>
    withRedirects perform redirects (runNegated (perform (.command body))) (pure ())
  | true, [(stage, _)] => runNegated (perform (.command stage))
  | false, [(stage, _)] => perform (.command stage)
  | negated, stages =>
    let run : Execution Unit := do
      let statuses ← runStages perform none stages
      let failed := statuses.reverse.find? (· != 0)
      setStatus (if ← hasOption "pipefail" then failed.getD 0 else statuses.getLast?.getD 0)
      setStageStatuses statuses
    if negated then runNegated run
    else
      run
      checkFailure perform

def runSubshell (body : Command) : Execution Unit := do
  settle perform
  setStatus (← subshell perform (perform (.command body)))
  setStageStatuses [(← process).status]
  checkFailure perform

def firstJob : Nat := 4242

/-- Starts a command in the background; what it writes under some descriptors is for others. It is run
when the shell waits for something. -/
def runBackground (body : Command) (taken : List Nat) : Execution Unit := do
  let w ← world
  let number := firstJob + w.finished.length + w.waiting.length + 1
  let before ← process
  setDescriptor 0 (← openChannel .sink)
  for descriptor in taken do setDescriptor descriptor (← openChannel .sink)
  let started ← process
  changeWorld fun w => { w with waiting := w.waiting ++ [⟨number, started, body⟩] }
  changeProcess fun _ =>
    { before with status := 0, jobs := number :: before.jobs, lastBackground := some number }

def runCommand (command : Command) : Execution Unit := do
  if ← hasOption "noexec" then return ()
  match command with
  | .nothing => setStatus 0
  | .simple line assignments arguments redirects => runSimple perform line assignments arguments redirects
  | .group body => perform (.command body)
  | .subshell body => runSubshell perform body
  | .branch condition body otherwise =>
    if ← holds perform condition then perform (.command body) else perform (.command otherwise)
  | .loop isUntil condition body => runLoop perform isUntil condition body
  | .forEach name words body => runForEach perform name words body
  | .forCount start test step body => runForCount perform start test step body
  | .select name words body => runSelect perform name words body
  | .choose word clauses =>
    let text ← textOf perform word
    runClauses perform text false false clauses
  | .condition line condition =>
    changeProcess fun p => { p with line := line, substituted := none }
    setStatus (← runCondition perform condition)
    checkFailure perform
  | .arithmetic line expression => runArithmetic perform line expression
  | .define name body =>
    changeProcess fun p =>
      { p with status := 0, functions := (name, body) :: p.functions.filter (·.1 != name) }
  | .redirected body redirects =>
    withRedirects perform redirects (perform (.command body)) (checkFailure perform)
  | .pipeline negated stages => runPipeline perform negated stages
  | .andThen left right =>
    guarded (perform (.command left))
    if (← process).status = 0 then perform (.command right)
  | .orElse left right =>
    guarded (perform (.command left))
    if (← process).status ≠ 0 then perform (.command right)
  | .sequence _ _ => for step in command.steps do perform (.command step)
  | .background body => runBackground body []
  | .partner body => runBackground body [1]

end

end Execution

end WorkflowScript.Shell
