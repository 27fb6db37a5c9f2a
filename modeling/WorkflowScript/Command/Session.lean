import WorkflowScript.Command.Arguments
import WorkflowScript.Command.LogFilter
import WorkflowScript.Script.Invocation
import WorkflowScript.Shell.Run
import WorkflowScript.Workspace.Scaffold

namespace WorkflowScript

structure Report where
  message : String
  causes : List String
  deriving DecidableEq, Repr

namespace Report

def indented (width : Nat) (text : String) : String :=
  .ofList (text.toList.flatMap fun c => if c = '\n' then '\n' :: List.replicate width ' ' else [c])

def numbered (causes : List String) : List String :=
  causes.zipIdx.map fun c => "    " ++ toString c.2 ++ ": " ++ indented 7 c.1

def causeLines : List String → List String
  | [] => []
  | [cause] => ["", "Caused by:", "    " ++ indented 4 cause]
  | causes => "" :: "Caused by:" :: numbered causes

def render (report : Report) : String :=
  "\n".intercalate (("Error: " ++ report.message) :: causeLines report.causes)

def ofMessage (message : String) : Report := ⟨message, []⟩

def ofLoadError (error : LoadError) : Report :=
  match error with
  | .file fault => ⟨error.message, [fault.message]⟩
  | .unreadable fault => ⟨error.message, [fault.message]⟩
  | error => .ofMessage error.message

def ofFailure : Failure → Report
  | .load error => .ofLoadError error
  | .compile error => .ofMessage error.message

def ofCreationError (error : CreationError) : Report := ⟨error.step.message, [error.fault.message]⟩

def inContext (message : String) (report : Report) : Report := ⟨message, report.message :: report.causes⟩

end Report

namespace Session

structure State where
  tree : FileTree
  input : List Char
  output : String
  errors : String
  question : Option String

inductive Halt where
  | failed (report : Report)
  | crashed
  deriving DecidableEq, Repr

end Session

abbrev Session (α : Type) := ExceptT Session.Halt (StateM Session.State) α

namespace Session

def print (text : String) : Session Unit :=
  modify fun state => { state with output := state.output ++ text }

def printLine (text : String) : Session Unit := print (text ++ "\n")

def readLine : Session (List Char) := do
  let state ← get
  let (line, rest) := state.input.span (· != '\n')
  set { state with input := rest.drop 1 }
  return line

def fail {α : Type} (report : Report) : Session α := throw (.failed report)

def orReport {α ε : Type} (report : ε → Report) : Except ε α → Session α
  | .ok value => return value
  | .error error => fail (report error)

def isYes (answer : List Char) : Bool :=
  let answer := Text.trim answer
  Text.sameIgnoringAsciiCase answer ['y'] || Text.sameIgnoringAsciiCase answer ['y', 'e', 's']

def confirm (question : String) : Session Bool := do
  print question
  modify fun state => { state with question := some question }
  return isYes (← readLine)

def resolve (workspace : Workspace) (name : String) : Session String := do
  orReport .ofLoadError (workspace.resolve (← get).tree name)

def create (workspace : Workspace) (path : String) (report : CreationError → Report) : Session Unit := do
  let prepared ← orReport report (workspace.prepare (← get).tree)
  modify fun state => { state with tree := prepared }
  match ← orReport report (workspace.create prepared path) with
  | .alreadyThere =>
    printLine ("Workflow '" ++ Path.fileName path ++ "' already exists. Skipping creation.")
  | .created tree =>
    modify fun state => { state with tree := tree }
    printLine ("Created workflow template at '" ++ path ++ "'")

def locate (workspace : Workspace) (name : String) : Session String := do
  let path ← resolve workspace name
  if (← get).tree.isFile path then return path
  let file := Path.fileName path
  if ← confirm ("Workflow '" ++ file ++ "' not found. Create new? [y/N]: ") then
    create workspace path fun error =>
      (Report.ofCreationError error).inContext ("Workflow '" ++ file ++ "' could not be created")
    return path
  else fail (.ofMessage ("Workflow '" ++ file ++ "' not found and creation declined."))

def script (workspace : Workspace) (name : String) (settings : Settings) : Session Script := do
  let path ← locate workspace name
  orReport .ofFailure (Workflow.compileFile (← get).tree path settings.options)

def ruleLine : String := .ofList (List.replicate Script.ruleWidth '=')

def statusShellMissing : Nat := 127

def shellDirectories : List String := ["/bin", "/usr/bin"]

def findsShell (environment : Environment) : Bool :=
  match environment.lookup "PATH" with
  | none => true
  | some path => (path.toList.splitOn ':').any fun directory => shellDirectories.contains (.ofList directory)

def inputLeft (state : State) : List Char := if state.question.isSome then [] else state.input

def runShell (scriptPath : String) (environment : Environment) (text : String) : Session Nat := do
  if !findsShell environment then return statusShellMissing
  let state ← get
  let outcome := Shell.run ⟨state.tree, Text.Utf8.encode (inputLeft state), environment⟩ scriptPath text
  set { state with
    tree := outcome.files, input := []
    output := state.output ++ String.ofList (Text.Utf8.decodeLossy outcome.output)
    errors := state.errors ++ String.ofList (Text.Utf8.decodeLossy outcome.errors) }
  return outcome.status

def run (scriptPath : String) (environment : Environment) (workspace : Workspace) (name : String)
    (settings : Settings) : Session Nat := do
  if settings.batch then fail (.ofMessage "--cmd is only supported on Windows.")
  let script ← script workspace name settings
  let invocation ← orReport (fun error => .ofMessage (HostError.message error))
    (Invocation.forScript script.options.target .posix scriptPath)
  printLine ruleLine
  printLine invocation.describe
  printLine ruleLine
  runShell scriptPath environment script.body

def checkLogging (logging : Logging) : Session Unit :=
  match logging.verbose, logging.filter, logging.ambient with
  | false, some filter, _ => checkFilter true filter
  | false, none, some filter => checkFilter false filter
  | _, _, _ => return ()
where
  checkFilter (isAsked : Bool) (filter : String) : Session Unit :=
    match LogFilter.check filter with
    | .ok () => return ()
    | .error .brokenCharacter => throw .crashed
    | .error fault =>
      if isAsked then fail ⟨"Invalid --log filter", fault.message :: fault.causes⟩ else return ()

def perform (scriptPath : String) (environment : Environment) (workspace : Workspace) : Action → Session Nat
  | .dry name settings => do
    printLine (← script workspace name settings).body
    return 0
  | .run none _ => fail (.ofMessage "No workflow given. Usage: ghx [OPTIONS] <WORKFLOW>")
  | .run (some name) settings => run scriptPath environment workspace name settings
  | .new name => do
    create workspace (← resolve workspace name) .ofCreationError
    return 0
  | .sleep _ => return 0

def serve (scriptPath : String) (environment : Environment) (workspace : Workspace) (request : Request) :
    Session Nat := do
  checkLogging request.logging
  perform scriptPath environment workspace request.action

structure Outcome where
  status : Nat
  output : String
  errors : String
  report : Option Report
  tree : FileTree
  question : Option String
  seconds : Nat

namespace Outcome

def statusFailed : Nat := 1

def statusCrashed : Nat := 101

def statusRefused : Nat := 2

def ofRun (request : Request) : Except Halt Nat × State → Outcome
  | (.ok status, state) =>
    let seconds := match request.action with
      | .sleep seconds => seconds
      | _ => 0
    ⟨status, state.output, state.errors, none, state.tree, state.question, seconds⟩
  | (.error (.failed report), state) =>
    ⟨statusFailed, state.output, state.errors, some report, state.tree, state.question, 0⟩
  | (.error .crashed, state) => ⟨statusCrashed, state.output, state.errors, none, state.tree, state.question, 0⟩

def versionLine : String := "ghx 0.1.0\n"

def usage : String :=
  "Usage: ghx [OPTIONS] [WORKFLOW]\n" ++
  "       ghx dry|run [OPTIONS] <WORKFLOW>\n" ++
  "       ghx new [OPTIONS] <WORKFLOW>\n" ++
  "       ghx sleep [OPTIONS] <SECONDS>\n"

def ofStop (tree : FileTree) : Stop → Outcome
  | .refused => ⟨statusRefused, "", usage, none, tree, none, 0⟩
  | .help => ⟨0, usage, "", none, tree, none, 0⟩
  | .version => ⟨0, versionLine, "", none, tree, none, 0⟩

def errorText (outcome : Outcome) : String :=
  match outcome.report with
  | some report => outcome.errors ++ report.render ++ "\n"
  | none => outcome.errors

def reportMark : List Char := "Error: ".toList

def reportLines : List (List Char) → List (List Char)
  | [] => []
  | line :: lines => if reportMark.isPrefixOf line then line :: lines else reportLines lines

def reported? (outcome : Outcome) : Option String :=
  match reportLines (outcome.errorText.toList.splitOn '\n') with
  | [] => none
  | lines => some (.ofList (Text.trimEnd (['\n'].intercalate lines)))

end Outcome

def start (scriptPath : String) (environment : Environment) (arguments : List String) (input : String)
    (tree : FileTree) : Outcome :=
  match Request.ofArguments environment arguments with
  | .error stop => .ofStop tree stop
  | .ok request =>
    .ofRun request
      (StateT.run (ExceptT.run (serve scriptPath environment .here request)) ⟨tree, input.toList, "", "", none⟩)

end Session

end WorkflowScript
