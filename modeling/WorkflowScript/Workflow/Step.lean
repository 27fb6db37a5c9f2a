import WorkflowScript.Workflow.Job

namespace WorkflowScript

open Document

structure Step where
  name : Option String
  run : Option String
  shell : Option String
  deriving DecidableEq, Repr

namespace Step

def ofNode? (node : Node) : Option Step :=
  if node.entries.isSome then
    some
      { name := (node.child "name").bind Node.scalarText
        run := (node.child "run").bind Node.scalarText
        shell := ((node.child "shell").filter fun n => !n.isNull).map fun n => n.scalarText.getD "" }
  else none

def hasOwnShell (step : Step) : Bool := step.shell.isSome

def label (step : Step) (place : Nat) : String :=
  match step.name with
  | some name => name
  | none => "#" ++ toString place

def runsFrom (job : String) (place : Nat) : List Node → Except CompileError (List String)
  | [] => .ok []
  | node :: nodes =>
    match ofNode? node with
    | none => runsFrom job (place + 1) nodes
    | some step =>
      if step.hasOwnShell then .error (.unsupportedShell job (step.label place))
      else (runsFrom job (place + 1) nodes).map fun runs => step.run.toList ++ runs

end Step

def Job.runs (job : Job) : Except CompileError (List String) :=
  match job.steps with
  | some nodes => Step.runsFrom job.name 1 nodes
  | none => .ok []

end WorkflowScript
