import WorkflowScript.Template.Placeholder
import WorkflowScript.Workflow.Job

namespace WorkflowScript.Runner

open Document

def supported : String := "ubuntu-latest"

def isSupported (label : String) : Bool :=
  Text.sameIgnoringAsciiCase label.toList supported.toList

def resolveLabel (bindings : Bindings) (text : String) : Except CompileError String :=
  (Placeholder.resolve bindings text.toList).map fun t => .ofList (Text.trim t)

def resolveLabels (job : String) (bindings : Bindings) : List Node → Except CompileError (List String)
  | [] => .ok []
  | entry :: entries =>
    match entry.scalarText with
    | none => .error (.structural job .runnerEntryNotScalar)
    | some text => do
      let label ← resolveLabel bindings text
      let labels ← resolveLabels job bindings entries
      return label :: labels

def resolve (job : Job) (bindings : Bindings) : Except CompileError String :=
  match job.runsOn with
  | none => .error (.structural job.name .runnerMissing)
  | some node =>
    match node.kind with
    | .scalar => resolveLabel bindings (node.scalarText.getD "")
    | .sequence =>
      (resolveLabels job.name bindings (node.items.getD [])).map fun labels =>
        " ".intercalate (labels.filter fun label => label != "")
    | .mapping | .null => .error (.structural job.name .runnerInvalid)

end WorkflowScript.Runner
