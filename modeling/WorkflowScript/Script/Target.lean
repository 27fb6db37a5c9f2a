namespace WorkflowScript

inductive Target where
  | shell
  | batch
  deriving DecidableEq, Repr

namespace Target

def lineEnding : Target → String
  | .shell => "\n"
  | .batch => "\r\n"

def extension : Target → String
  | .shell => ".sh"
  | .batch => ".bat"

end Target

end WorkflowScript
