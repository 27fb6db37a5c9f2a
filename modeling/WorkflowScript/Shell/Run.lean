import WorkflowScript.Shell.Evaluate
import WorkflowScript.Shell.ReadCommand

namespace WorkflowScript.Shell

namespace Execution

def runLine (perform : Perform) (command : Command) : Execution Unit := do
  let p ← process
  tryCatch (perform (.command command)) fun signal =>
    match signal with
    | .discard ofScript =>
      if p.depth = 0 ∧ (ofScript = false ∨ p.texts = 1) then
        changeProcess fun p => { p with status := max p.status 1 }
      else throw signal
    | signal => throw signal

def complainOfText (fault : ReadFault) : Execution Unit := do
  complainHere fault.message
  setStatus statusUnreadable

def runLines (perform : Perform) : Nat → Bool → Source → Execution Unit
  | 0, _, _ => return ()
  | n + 1, ranAny, source => do
    match Reader.line? (← hasHabit "extglob") source with
    | .error fault => complainOfText fault
    | .ok (none, _) => unless ranAny do setStatus 0
    | .ok (some command, source) =>
      runLine perform command
      runLines perform n true source

def runText (perform : Perform) (text : Chars) : Execution Unit := do
  let before := (← process).texts
  changeProcess fun p => { p with texts := p.texts + 1 }
  ensuring (runLines perform (text.length + 2) false (Source.ofText text))
    (changeProcess fun p => { p with texts := before })

def statusTooDeep : Nat := 139

def run : Nat → Task → Execution Unit
  | 0, _ => throw (.killed statusTooDeep)
  | n + 1, task =>
    match task with
    | .text text => runText (run n) text
    | .command command => runCommand (run n) command
    | .words _ [] => setStatus 0
    | .words meaning (name :: words) => runNamed (run n) meaning name (words.map .word)

def mostTasks : Nat := 2000

end Execution

structure Setting where
  files : FileTree
  input : Text.Utf8.Bytes
  environment : List (String × String)

structure Outcome where
  status : Nat
  output : Text.Utf8.Bytes
  errors : Text.Utf8.Bytes
  files : FileTree

namespace Setting

def exported (name value : String) : Chars × Variable :=
  (ofString name, { Variable.undeclared with value := some (.text (ofString value)), isExported := true })

def usualEnvironment : List (String × String) :=
  [("HOME", "/root"), ("PATH", "/usr/local/sbin:/usr/local/bin:/usr/sbin:/usr/bin:/sbin:/bin"), ("SHLVL", "0")]

def store (setting : Setting) : List (Chars × Variable) :=
  let given := setting.environment.map fun e => exported e.1 e.2
  let usual := usualEnvironment.filter fun e => !(setting.environment.any (·.1 == e.1))
  let here := Execution.locationPath setting.files.here
  let plain (name : String) (value : Chars) : Chars × Variable :=
    (ofString name, { Variable.undeclared with value := some (.text value) })
  let kept := given.filter fun e => e.1 != "IFS".toList && e.1 != "PWD".toList
  kept ++ usual.map (fun e => exported e.1 e.2) ++
    [("PWD".toList, { Variable.undeclared with value := some (.text here), isExported := true }),
      plain "IFS" [' ', '\t', '\n'], plain "OPTIND" ['1'], plain "UID" ['0'], plain "EUID" ['0'],
      plain "PPID" ['1'], plain "BASH_VERSION" "5.2.21(1)-release".toList, plain "HOSTTYPE" "x86_64".toList,
      plain "OSTYPE" "linux-gnu".toList]

def process (setting : Setting) (name : String) : Process :=
  { name := ofString name, arguments := [], store := setting.store, functions := [],
    options := "errexit" :: Execution.firstOptions, habits := Execution.firstHabits,
    descriptors := [(0, 0), (1, 1), (2, 2)], traps := [], here := setting.files.here, status := 0, jobs := [],
    substituted := none, isGuarded := false, loops := 0, frames := [], sources := 0, texts := 0, depth := 0, line := 1,
    lastBackground := none, endingStatus := none, optionOffset := 0, kept := [] }

def world (setting : Setting) : World :=
  { files := setting.files, programs := [], channels := [.input, .output, .errors],
    input := ofBytes setting.input, output := [], errors := [], waiting := [], finished := [] }

end Setting

def statusKilled : Nat := 1

def run (setting : Setting) (name : String) (text : String) : Outcome :=
  let perform := Execution.run Execution.mostTasks
  let commands := (ofString text).filter (· != '\x00') ++ ['\n']
  let script : Execution Nat := do
    let status ← Execution.toEnd perform (perform (.text commands))
    Execution.settle perform
    return status
  let (found, state) := (ExceptT.run script).run ⟨setting.world, setting.process name⟩
  let status := match found with
    | .ok status => status
    | .error _ => statusKilled
  ⟨status % 256, toBytes state.world.output.reverse, toBytes state.world.errors.reverse, state.world.files⟩

end WorkflowScript.Shell
