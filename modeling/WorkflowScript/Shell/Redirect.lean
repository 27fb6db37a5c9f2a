import WorkflowScript.Shell.Expand
import WorkflowScript.Shell.Tool.Files

namespace WorkflowScript.Shell.Execution

def refusePath (path : Chars) (fault : FileFault) : Execution (Option Nat) := do
  complainHere (path ++ ": ".toList ++ reason fault)
  return none

def openInput (path : Chars) : Execution (Option Nat) := do
  let files ← files
  match files.locate (toPath path) with
  | .error fault => refusePath path fault
  | .ok place =>
    match files.entry? place with
    | none => refusePath path .notFound
    | some .sink => return some (← openChannel .sink)
    | some _ => return some (← openChannel (.file place 0 false))

def openOutput (path : Chars) (empties appends guards : Bool) : Execution (Option Nat) := do
  let files ← files
  match files.locate (toPath path) with
  | .error fault => refusePath path fault
  | .ok place =>
    match files.entry? place with
    | some .directory => refusePath path .isDirectory
    | some .sink => return some (← openChannel .sink)
    | found =>
      if guards && found.isSome then
        complainHere (path ++ ": cannot overwrite existing file".toList)
        return none
      if empties || found.isNone then setFiles (files.set place (.file .empty))
      return some (← openChannel (.file place 0 appends))

def openPath (kind : RedirectKind) (path : Chars) : Execution (Option Nat) := do
  match descriptorOf? path with
  | some descriptor =>
    match ← channelNumber? descriptor with
    | some number => return some number
    | none => refusePath path .notFound
  | none =>
    match kind with
    | .input => openInput path
    | .append | .both true => openOutput path false true false
    | .inputOutput => openOutput path false false false
    | .overwrite => openOutput path true false false
    | _ => openOutput path true false (← hasOption "noclobber")

section

variable (perform : Perform)

def targetPath (word : Word) : Execution (Option Chars) := do
  match ← expand perform word with
  | [path] => return some path
  | _ =>
    complainHere "ambiguous redirect".toList
    return none

def connect (descriptors : List Nat) (kind : RedirectKind) (path : Chars) : Execution Bool := do
  match ← openPath kind path with
  | none => return false
  | some number =>
    for descriptor in descriptors do setDescriptor descriptor number
    return true

def duplicate (descriptor : Option Nat) (isInput : Bool) (target : Chars) : Execution Bool := do
  let own := descriptor.getD (if isInput then 0 else 1)
  let (digits, moves) := match target.getLast? with
    | some '-' => (target.dropLast, true)
    | _ => (target, false)
  match Text.digits? 10 digits with
  | some other =>
    match ← channelNumber? other with
    | none =>
      complainHere (digits ++ ": Bad file descriptor".toList)
      return false
    | some number =>
      setDescriptor own number
      if moves ∧ other ≠ own then closeDescriptor other
      return true
  | none =>
    if target = ['-'] then
      closeDescriptor own
      return true
    else if !isInput ∧ descriptor.all (· == 1) = true then connect [1, 2] (.both false) target
    else
      complainHere (target ++ ": ambiguous redirect".toList)
      return false

def openText (descriptor : Nat) (text : Chars) : Execution Bool := do
  setDescriptor descriptor (← openChannel (.pipe text))
  return true

def documentOf (r : Redirect) : Execution (Option Chars) :=
  tryCatch (do
    if r.kind = .string then return some ((← textOf perform r.target) ++ ['\n'])
    else return some ((Piece.marked [' '] (← pieces perform r.target)).map Marked.char)) fun signal =>
    match signal with
    | .discard false => return none
    | signal => throw signal

def redirect (r : Redirect) : Execution Bool := do
  match r.kind with
  | .document | .string =>
    match ← documentOf perform r with
    | some text => openText (r.descriptor.getD 0) text
    | none => return false
  | kind =>
    match ← targetPath perform r.target with
    | none => return false
    | some target =>
      match kind with
      | .duplicate isInput => duplicate r.descriptor isInput target
      | .both _ => connect [1, 2] kind target
      | .input | .inputOutput => connect [r.descriptor.getD 0] kind target
      | kind => connect [r.descriptor.getD 1] kind target

def redirectAll : List Redirect → Execution Bool
  | [] => return true
  | r :: redirects => do
    if ← redirect perform r then redirectAll redirects else return false

def withRedirects (redirects : List Redirect) (action refused : Execution Unit) : Execution Unit := do
  if redirects.isEmpty then action
  else
    let before := (← process).descriptors
    let restored := changeProcess fun p => { p with descriptors := before }
    ensuring (do
      if ← redirectAll perform redirects then action
      else
        restored
        setStatus 1
        refused) restored

end

end WorkflowScript.Shell.Execution
