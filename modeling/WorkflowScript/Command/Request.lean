import WorkflowScript.Script.Layout

namespace WorkflowScript

structure Settings where
  batch : Bool
  subsystem : Bool
  onceOnly : Bool
  deriving DecidableEq, Repr

def Settings.options (settings : Settings) : Script.Options :=
  let target : Target := if settings.batch then .batch else .shell
  { Script.Options.forTarget target with onceOnly := settings.onceOnly }

inductive Action where
  | dry (workflow : String) (settings : Settings)
  | run (workflow : Option String) (settings : Settings)
  | new (workflow : String)
  | sleep (seconds : Nat)
  deriving DecidableEq, Repr

structure Logging where
  verbose : Bool
  filter : Option String
  ambient : Option String
  deriving DecidableEq, Repr

structure Request where
  logging : Logging
  action : Action
  deriving DecidableEq, Repr

end WorkflowScript
