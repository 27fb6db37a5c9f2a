import WorkflowScript.Workspace.Names

namespace WorkflowScript

inductive CreationStep where
  | makeDirectory (path : String)
  | copyTemplate (path : String)
  | write (path : String)
  deriving DecidableEq, Repr

structure CreationError where
  step : CreationStep
  fault : FileFault
  deriving DecidableEq, Repr

def CreationStep.message : CreationStep → String
  | .makeDirectory path => "Failed to create directory: " ++ path
  | .copyTemplate path => "Failed to copy template: " ++ path
  | .write path => "Failed to write: " ++ path

inductive Creation where
  | created (tree : FileTree)
  | alreadyThere
  deriving DecidableEq, Repr

namespace Creation

def starterLines (job : String) : List String :=
  [ "name: " ++ job, "", "on:", "  # push:", "  #   branches: [ \"main\" ]", "  workflow_dispatch:", "",
    "jobs:", "", "  " ++ job ++ ":", "    # strategy:", "    #   matrix:",
    "    #     configuration: [Debug, Release]", "",
    "    runs-on: ubuntu-latest   # may use $\x7b\x7b matrix.<name> \x7d\x7d", "", "    steps:",
    "      - uses: actions/checkout@v4", "", "      - run: |", "          echo Hello from " ++ job ]

def starter (job : String) : String := .join ((starterLines job).map (· ++ "\n"))

def attempt {α : Type} (step : CreationStep) : Except FileFault α → Except CreationError α
  | .ok value => .ok value
  | .error fault => .error ⟨step, fault⟩

end Creation

namespace Workspace

def fill (workspace : Workspace) (tree : FileTree) (path : String) : Except CreationError FileTree :=
  match workspace.template? tree with
  | some template =>
    Creation.attempt (.copyTemplate template) ((tree.read template).bind (tree.write path))
  | none =>
    let job := stem (Path.fileName path)
    Creation.attempt (.write path) (tree.write path (.text (Creation.starter job)))

def prepare (workspace : Workspace) (tree : FileTree) : Except CreationError FileTree :=
  Creation.attempt (.makeDirectory workspace.workflows) (tree.makeDirectories workspace.workflows)

def create (workspace : Workspace) (tree : FileTree) (path : String) : Except CreationError Creation := do
  if tree.exists? path then return .alreadyThere
  else return .created (← workspace.fill tree path)

end Workspace

end WorkflowScript
