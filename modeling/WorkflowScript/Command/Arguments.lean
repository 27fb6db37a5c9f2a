import WorkflowScript.Command.Request
import WorkflowScript.Text.Digits

namespace WorkflowScript

inductive Flag where
  | verbose
  | log
  | batch
  | subsystem
  | once
  | help
  | version
  deriving DecidableEq, Repr

namespace Flag

def all : List Flag := [.verbose, .log, .batch, .subsystem, .once, .help, .version]

def word : Flag → List Char
  | .verbose => "verbose".toList
  | .log => "log".toList
  | .batch => "cmd".toList
  | .subsystem => "wsl".toList
  | .once => "once".toList
  | .help => "help".toList
  | .version => "version".toList

def letter? : Flag → Option Char
  | .verbose => some 'v'
  | .once => some '1'
  | .help => some 'h'
  | .version => some 'V'
  | _ => none

def takesValue (flag : Flag) : Bool := flag == .log

def setting? : Flag → Option String
  | .log => some "GHX_LOG"
  | .batch => some "GHX_CMD"
  | .subsystem => some "GHX_WSL"
  | .once => some "GHX_ONCE"
  | _ => none

def switches : List Flag := [.batch, .subsystem, .once]

end Flag

inductive Verb where
  | start
  | dry
  | run
  | new
  | sleep
  deriving DecidableEq, Repr

namespace Verb

def ofWord? : String → Option Verb
  | "dry" => some .dry
  | "run" => some .run
  | "new" => some .new
  | "sleep" => some .sleep
  | _ => none

def accepts (verb : Verb) : Flag → Bool
  | .verbose | .log | .help => true
  | .batch | .subsystem | .once => verb == .start || verb == .dry || verb == .run
  | .version => verb == .start

end Verb

inductive Stop where
  | refused
  | help
  | version
  deriving DecidableEq, Repr

structure Given where
  flags : List (Flag × String)
  names : List String
  deriving DecidableEq, Repr

abbrev Environment := List (String × String)

def widestCount : Nat := Nat.pow 2 64

def seconds? (text : String) : Option Nat :=
  let digits := match text.toList with
    | '+' :: digits => digits
    | digits => digits
  (Text.digits? 10 digits).filter (· < widestCount)

namespace Given

def empty : Given := ⟨[], []⟩

def value? (given : Given) (flag : Flag) : Option String :=
  (given.flags.find? (·.1 == flag)).map Prod.snd

def has (given : Given) (flag : Flag) : Bool := (given.value? flag).isSome

def addName (verb : Verb) (given : Given) (name : String) : Except Stop Given :=
  if given.names = [] ∧ (verb = .sleep → (seconds? name).isSome) then
    .ok { given with names := [name] }
  else .error .refused

def addNames (verb : Verb) (given : Given) : List String → Except Stop Given
  | [] => .ok given
  | name :: names => do addNames verb (← given.addName verb name) names

def addFlag (given : Given) (flag : Flag) (value : String) : Except Stop Given :=
  match flag with
  | .help => .error .help
  | .version => .error .version
  | flag =>
    if given.has flag then .error .refused
    else .ok { given with flags := given.flags ++ [(flag, value)] }

def addLetters (verb : Verb) (given : Given) : List Char → Except Stop Given
  | [] => .ok given
  | letter :: letters =>
    match Flag.all.find? fun flag => verb.accepts flag && flag.letter? == some letter with
    | some flag => do addLetters verb (← given.addFlag flag "") letters
    | none => .error .refused

end Given

inductive Argument where
  | name
  | escape
  | long (word : List Char) (value : Option String)
  | letters (letters : List Char)
  deriving DecidableEq, Repr

def Argument.ofText (text : String) : Argument :=
  match text.toList with
  | ['-', '-'] => .escape
  | '-' :: '-' :: text =>
    match text.span (· != '=') with
    | (word, _ :: value) => .long word (some (.ofList value))
    | (word, []) => .long word none
  | '-' :: c :: more => .letters (c :: more)
  | _ => .name

namespace Arguments

def read (verb : Verb) (awaiting : Option Flag) (given : Given) : List String → Except Stop Given
  | [] => if awaiting.isSome then .error .refused else .ok given
  | text :: texts =>
    match awaiting, Argument.ofText text with
    | some flag, .name => do read verb none (← given.addFlag flag text) texts
    | some _, _ => .error .refused
    | none, .name => do read verb none (← given.addName verb text) texts
    | none, .escape => given.addNames verb texts
    | none, .letters letters => do read verb none (← given.addLetters verb letters) texts
    | none, .long word value =>
      match Flag.all.find? fun flag => verb.accepts flag && flag.word == word with
      | none => .error .refused
      | some flag =>
        match flag.takesValue, value with
        | true, none => read verb (some flag) given texts
        | true, some value => do read verb none (← given.addFlag flag value) texts
        | false, none => do read verb none (← given.addFlag flag "") texts
        | false, some _ => .error .refused

def setting? (environment : Environment) (flag : Flag) : Option String := do
  environment.lookup (← flag.setting?)

def readsSwitch (verb : Verb) (given : Given) (environment : Environment) (flag : Flag) : Bool :=
  (verb == .start && given.has flag) ||
    (setting? environment flag).all fun value => value == "true" || value == "false"

def isPresent (given : Given) (environment : Environment) (flag : Flag) : Bool :=
  given.has flag || (setting? environment flag).isSome

def isOn (given : Given) (environment : Environment) (flag : Flag) : Bool :=
  given.has flag || setting? environment flag == some "true"

def checkSwitches (verb : Verb) (given : Given) (environment : Environment) : Except Stop Unit :=
  if Flag.switches.all (readsSwitch verb given environment) ∧
      ¬ (isPresent given environment .batch ∧ isPresent given environment .subsystem) then .ok ()
  else .error .refused

def action (verb : Verb) (name : Option String) (settings : Settings) : Except Stop Action :=
  match verb, name with
  | .start, name => .ok (.run name settings)
  | .dry, some name => .ok (.dry name settings)
  | .run, some name => .ok (.run (some name) settings)
  | .new, some name => .ok (.new name)
  | .sleep, some name =>
    match seconds? name with
    | some seconds => .ok (.sleep seconds)
    | none => .error .refused
  | _, none => .error .refused

def ambientFilter : String := "RUST_LOG"

def request (verb : Verb) (environment : Environment) (texts : List String) : Except Stop Request := do
  let given ← read verb none .empty texts
  checkSwitches verb given environment
  let on := isOn given environment
  let action ← action verb given.names.head? ⟨on .batch, on .subsystem, on .once⟩
  let logging : Logging :=
    ⟨on .verbose, (given.value? .log).or (setting? environment .log), environment.lookup ambientFilter⟩
  return ⟨logging, action⟩

def help : List String → Stop
  | [] => .help
  | [word] => if (Verb.ofWord? word).isSome ∨ word = "help" then .help else .refused
  | _ => .refused

end Arguments

def Request.ofArguments (environment : Environment) : List String → Except Stop Request
  | [] => Arguments.request .start environment []
  | "help" :: words => .error (Arguments.help words)
  | word :: words =>
    match Verb.ofWord? word with
    | some verb => Arguments.request verb environment words
    | none => Arguments.request .start environment (word :: words)

end WorkflowScript
