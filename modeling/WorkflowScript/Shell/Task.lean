import WorkflowScript.Shell.Channel

namespace WorkflowScript.Shell

inductive Meaning where
  | any
  | noFunction
  | builtin
  | program
  deriving DecidableEq, Repr

inductive Task where
  | text (text : Chars)
  | command (command : Command)
  | words (meaning : Meaning) (words : List Chars)

abbrev Perform := Task → Execution Unit

namespace Execution

def signalStatus : Signal → Nat
  | .exit status => status
  | .failure status _ => status
  | .killed status => status
  | .discard _ => 1
  | .leaveFunction status => status
  | .leaveLoops _ => 0
  | .nextRound _ => 0

def ensuring (action after : Execution Unit) : Execution Unit := do
  tryCatch action fun signal => do
    after
    throw signal
  after

def isKilled : Signal → Bool
  | .killed _ => true
  | _ => false

def exitTrap : String := "EXIT"

def toEnd (perform : Perform) (action : Execution Unit) : Execution Nat := do
  let status ← tryCatch (do action; return (← process).status) fun signal =>
    if isKilled signal then throw signal else return signalStatus signal
  match (← process).traps.lookup exitTrap with
  | none => return status
  | some [] => return status
  | some text =>
    changeProcess fun p =>
      { p with
        traps := p.traps.filter (·.1 != exitTrap), status := status, endingStatus := some status,
        loops := 0, frames := [], sources := 0 }
    tryCatch (do perform (.text text); return status) fun signal =>
      match signal with
      | .exit status => return status
      | .failure status _ => return status
      | .killed _ => throw signal
      | _ => return status

def subshell (perform : Perform) (action : Execution Unit) : Execution Nat := do
  let before ← process
  changeProcess fun p => { p with depth := p.depth + 1, traps := p.traps.filter (·.2.isEmpty), loops := 0 }
  let status ← tryCatch (toEnd perform action) fun signal => return signalStatus signal
  changeProcess fun _ => before
  return status % 256

def mostGenerations : Nat := 100

def settleFrom (perform : Perform) : Nat → Execution Unit
  | 0 => return ()
  | n + 1 => do
    let waiting := (← world).waiting
    if waiting.isEmpty then return ()
    changeWorld fun w => { w with waiting := [] }
    for background in waiting do
      let before ← process
      changeProcess fun _ => background.process
      let status ← subshell perform (perform (.command background.body))
      changeProcess fun _ => before
      changeWorld fun w => { w with finished := (background.number, status) :: w.finished }
    settleFrom perform n

def settle (perform : Perform) : Execution Unit := settleFrom perform mostGenerations

def trimBreaks (text : Chars) : Chars := (text.reverse.dropWhile (· == '\n')).reverse

def captured (perform : Perform) (action : Execution Unit) : Execution (Chars × Nat) := do
  settle perform
  let number ← openChannel (.pipe [])
  let status ← subshell perform do
    setDescriptor 1 number
    unless ← hasHabit "inherit_errexit" do setOption "errexit" false
    action
  settle perform
  match (← world).channels[number]? with
  | some (.pipe text) =>
    setChannel number .sink
    return (text, status)
  | _ => return ([], status)

end Execution

end WorkflowScript.Shell
