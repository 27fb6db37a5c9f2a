import WorkflowScript.Shell.Builtin
import WorkflowScript.Shell.Redirect

namespace WorkflowScript.Shell

def systemDirectories : List Chars := ["/usr/bin".toList, "/bin".toList]

namespace Execution

def statusUnknown : Nat := 127

def statusNotRunnable : Nat := 126

def firstOptions : List String := ["braceexpand", "hashall", "interactive-comments"]

def freshProcess (old : Process) (name : Chars) (arguments : List Chars) : Process :=
  { name, arguments,
    store := (old.store.filter fun e => e.2.isExported && e.1 != "IFS".toList) ++
      [("IFS".toList, { Variable.undeclared with value := some (.text [' ', '\t', '\n']) }),
        ("OPTIND".toList, { Variable.undeclared with value := some (.text ['1']) })],
    functions := [], options := firstOptions, habits := firstHabits.filter (· != "login_shell"),
    descriptors := old.descriptors, traps := old.traps.filter (·.2.isEmpty), here := old.here, status := 0,
    jobs := [], substituted := none, isGuarded := false, loops := 0, frames := [], sources := 0, texts := 0,
    depth := 0,
    line := 1, lastBackground := none, endingStatus := none, optionOffset := 0, kept := [] }

def runScript (perform : Perform) (change : Process → Process) (name : Chars) (arguments : List Chars)
    (text : Chars) : Execution Nat := do
  let before ← process
  changeProcess fun p => change (freshProcess p name arguments)
  let status ← tryCatch (toEnd perform (perform (.text text))) fun signal => return signalStatus signal
  changeProcess fun _ => before
  return status % 256

structure ShellRequest where
  changes : List (String × Bool)
  command : Option Chars
  readsInput : Bool
  operands : List Chars

def shellRequest : Nat → List Chars → Except Char ShellRequest
  | 0, words => .ok ⟨[], none, false, words⟩
  | _ + 1, [] => .ok ⟨[], none, false, []⟩
  | n + 1, word :: words =>
    match word with
    | ['-', '-'] => .ok ⟨[], none, false, words⟩
    | ['-'] => .ok ⟨[], none, false, words⟩
    | '-' :: '-' :: _ => shellRequest n words
    | mark :: c :: letters =>
      if mark = '-' ∨ mark = '+' then
        let own := (c :: letters).filter fun c => "csilrD".toList.contains c
        let others := (c :: letters).filter fun c => !"csilrD".toList.contains c
        match setLetters (mark == '-') others words with
        | .error (.letter c) => .error c
        | .error (.name _) => .error 'o'
        | .ok (request, rest) => do
          let more ← shellRequest n rest
          let command := own.contains 'c' && more.command.isNone
          let found : ShellRequest :=
            { more with changes := request.changes ++ more.changes, readsInput := more.readsInput || own.contains 's' }
          return if command then { found with command := some [] } else found
      else .ok ⟨[], none, false, word :: words⟩
    | word => .ok ⟨[], none, false, word :: words⟩

def runShell (perform : Perform) (program : Chars) (words : List Chars) : Execution Nat := do
  match shellRequest (words.length + 1) words with
  | .error c =>
    complainAs (toPath program) (['-', c] ++ ": invalid option".toList)
    return 2
  | .ok request =>
    let change (p : Process) : Process :=
      { p with options := request.changes.foldl (fun names c => with_ c.1 c.2 names) p.options }
    match request.command, request.operands with
    | some _, [] =>
      complainAs (toPath program) "-c: option requires an argument".toList
      return 2
    | some _, text :: more =>
      runScript perform change (more.head?.getD program) (more.drop 1) (text ++ ['\n'])
    | none, operands =>
      match request.readsInput, operands with
      | false, path :: arguments =>
        match ← contentOf path with
        | .error fault =>
          complainAs (toPath program) (path ++ ": ".toList ++ reason fault)
          return if fault = .isDirectory then statusNotRunnable else statusUnknown
        | .ok text => runScript perform change path arguments (text ++ ['\n'])
      | _, arguments =>
        let text := (← readAll 0).getD []
        runScript perform change program arguments (text ++ ['\n'])

def runProgramWords (perform : Perform) (words : List Chars) : Execution Nat := do
  perform (.words .program words)
  return (← process).status

def isAssignmentText (word : Chars) : Bool :=
  match word.span (· != '=') with
  | (name, '=' :: _) => !name.isEmpty
  | _ => false

def env (perform : Perform) (words : List Chars) : Execution Nat := do
  match Options.read ⟨"i0v", "uCS", [("ignore-environment", 'i'), ("unset", 'u')], false⟩ words with
  | .error message =>
    complainAs "env" message
    return 125
  | .ok options =>
    let operands := options.operands
    let clears := options.has 'i' || operands.head? == some ['-']
    let operands := if operands.head? = some ['-'] then operands.drop 1 else operands
    let assignments := operands.takeWhile isAssignmentText
    let command := operands.drop assignments.length
    let before ← process
    changeProcess fun p =>
      { p with store := p.store.filter fun e =>
          e.2.isExported && !clears && !(options.values 'u').contains e.1 }
    for assignment in assignments do
      let (name, value) := assignment.span (· != '=')
      putVariable name { Variable.undeclared with value := some (.text (value.drop 1)), isExported := true }
    if (← variableAt? "PATH".toList).isNone then
      putVariable "PATH".toList { Variable.undeclared with value := some (.text "/bin:/usr/bin".toList) }
    let status ← if command.isEmpty then printEnvironment [] else runProgramWords perform command
    changeProcess fun p => { before with status := p.status }
    return status

def inputWords (quote : Option Char) (word : Option Chars) : Chars → List Chars
  | [] => word.toList.map List.reverse
  | '\\' :: c :: text =>
    if quote.isNone then inputWords none (some (c :: word.getD [])) text
    else inputWords quote (some ('\\' :: word.getD [])) (c :: text)
  | c :: text =>
    match quote with
    | some q =>
      if c = q then inputWords none word text else inputWords quote (some (c :: word.getD [])) text
    | none =>
      if c = '\'' ∨ c = '"' then inputWords (some c) (some (word.getD [])) text
      else if isBlank c ∨ c = '\n' then word.toList.map List.reverse ++ inputWords none none text
      else inputWords none (some (c :: word.getD [])) text
termination_by text => text.length

def rows (n : Nat) (items : List Chars) : Nat → List (List Chars)
  | 0 => []
  | count + 1 =>
    if items.isEmpty then [] else items.take n :: rows n (items.drop n) count

def replaceText (old new : Chars) : Nat → Chars → Chars
  | 0, text => text
  | _ + 1, [] => []
  | n + 1, c :: text =>
    if old.isPrefixOf (c :: text) && !old.isEmpty then new ++ replaceText old new n ((c :: text).drop old.length)
    else c :: replaceText old new n text

def xargs (perform : Perform) (words : List Chars) : Execution Nat := do
  match Options.read ⟨"0rtx", "nLIPds", [("null", '0'), ("no-run-if-empty", 'r'), ("max-args", 'n')], false⟩ words with
  | .error message =>
    complainAs "xargs" message
    return 1
  | .ok options =>
    let text := (← readAll 0).getD []
    let command := if options.operands.isEmpty then ["echo".toList] else options.operands
    let lines := (Lines.ofText text).filter fun line => !line.isEmpty
    let calls : List (List Chars) := match options.value? 'I' with
      | some mark =>
        lines.map fun line => command.map fun word =>
          replaceText mark (line.dropWhile isBlank) (word.length + 1) word
      | none =>
        let items : List Chars :=
          if options.has '0' then (text.splitOn '\x00').filter fun item => !item.isEmpty
          else match options.value? 'd' with
            | some mark => delimitedItems (mark.head?.getD '\n') text
            | none => inputWords none none text
        let size (c : Char) : Option Nat := (options.value? c).bind (Text.digits? 10)
        let rowsFound : List (List Chars) := match size 'n', size 'L' with
          | some n, _ => rows n items (items.length + 1)
          | none, some n => (rows n lines (lines.length + 1)).map fun row => row.flatMap (inputWords none none)
          | none, none => if items.isEmpty then [] else [items]
        if rowsFound.isEmpty then (if options.has 'r' then [] else [command])
        else rowsFound.map (command ++ ·)
    let before ← process
    setDescriptor 0 (← openChannel .sink)
    let statuses ← calls.mapM (runProgramWords perform)
    changeProcess fun _ => before
    if statuses.any fun s => s == statusUnknown || s == statusNotRunnable then
      return (statuses.find? fun s => s == statusUnknown || s == statusNotRunnable).getD 0
    return if statuses.all (· == 0) then 0 else 123
where
  delimitedItems (mark : Char) (text : Chars) : List Chars :=
    let items := text.splitOn mark
    if items.getLast? = some [] then items.dropLast else items

def runsCommand (skipsDuration : Bool) (perform : Perform) (words : List Chars) : Execution Nat := do
  let rest := words.dropWhile fun word => word.head? == some '-'
  let rest := if skipsDuration then rest.drop 1 else rest
  if rest.isEmpty then return 125 else runProgramWords perform rest

def launchers : List (String × (Perform → List Chars → Execution Nat)) :=
  [("bash", fun perform => runShell perform "bash".toList), ("dash", fun perform => runShell perform "dash".toList),
    ("env", env), ("nice", runsCommand false), ("nohup", runsCommand false),
    ("sh", fun perform => runShell perform "sh".toList), ("timeout", runsCommand true), ("xargs", xargs)]

def twins : List (String × (List Chars → Execution Nat)) :=
  [("[", bracketTest), ("kill", kill), ("pwd", whereIsHere), ("test", runTest "test")]

def isSystemProgram (name : String) : Bool :=
  (tools.lookup name).isSome || (launchers.lookup name).isSome || (twins.lookup name).isSome

def runSystemProgram (perform : Perform) (name : String) (words : List Chars) : Execution Nat :=
  match tools.lookup name, launchers.lookup name, twins.lookup name with
  | some tool, _, _ => tool words
  | none, some launcher, _ => launcher perform words
  | none, none, some twin => twin words
  | none, none, none => return statusUnknown

inductive Found where
  | system (name : String) (path : Chars)
  | script (path : Chars)
  | missing
  | refused (text : Chars) (status : Nat)

def systemName? (path : Chars) : Option String :=
  let directory := directoryName path
  let name := toPath (baseName path)
  if systemDirectories.contains directory ∧ isSystemProgram name = true then some name else none

def findAt (path : Chars) : Execution Found := do
  match systemName? path with
  | some name => return .system name path
  | none =>
    let files ← files
    match files.locate (toPath path) with
    | .error fault =>
      let status := if fault = .notFound then statusUnknown else statusNotRunnable
      return .refused (path ++ ": ".toList ++ reason fault) status
    | .ok place =>
      match files.entry? place with
      | none => return .refused (path ++ ": No such file or directory".toList) statusUnknown
      | some .directory => return .refused (path ++ ": Is a directory".toList) statusNotRunnable
      | some _ =>
        if (← world).programs.contains place then return .script path
        else return .refused (path ++ ": Permission denied".toList) statusNotRunnable

def searchPath (name : Chars) : List Chars → Execution Found
  | [] => return .missing
  | directory :: directories => do
    let base := if directory.isEmpty then ['.'] else directory
    match ← findAt (base ++ '/' :: name) with
    | .refused _ _ => searchPath name directories
    | found => return found

def findProgram (name : Chars) : Execution Found := do
  if name.contains '/' then findAt name
  else if name.isEmpty then return .missing
  else searchPath name (((← scalar? "PATH".toList).getD []).splitOn ':')

def runFile (perform : Perform) (path : Chars) (words : List Chars) : Execution Nat := do
  match ← contentOf path with
  | .error _ => return statusNotRunnable
  | .ok text =>
    match text with
    | '#' :: '!' :: line =>
      let line := line.takeWhile (· != '\n')
      let parts := (line.splitOn ' ').filter fun part => !part.isEmpty
      match parts with
      | [] => runShell perform "bash".toList (path :: words)
      | program :: options =>
        match systemName? program with
        | some name => runSystemProgram perform name (options ++ path :: words)
        | none =>
          complainHere (path ++ ": ".toList ++ program ++ ": bad interpreter: No such file or directory".toList)
          return statusNotRunnable
    | _ => runShell perform "bash".toList (path :: words)

def runProgram (perform : Perform) (name : Chars) (words : List Chars) : Execution Nat := do
  settle perform
  match ← findProgram name with
  | .system program _ => runSystemProgram perform program words
  | .script path => runFile perform path words
  | .missing =>
    complainHere (name ++ ": command not found".toList)
    return statusUnknown
  | .refused text status =>
    complainHere text
    return status

end Execution

end WorkflowScript.Shell
