import WorkflowScript.Document.Node
import WorkflowScript.Template.Bindings

namespace WorkflowScript

open Document

def Input.ofNode (node : Node) : Input :=
  match (node.child "default").bind Node.scalarText with
  | some value => .ofDefault value
  | none => .required

namespace InputTable

def declared? (entry : String × Node) : Option (String × Input) :=
  if entry.2.entries.isSome then some (entry.1, .ofNode entry.2) else none

def ofRoot (root : Node) : InputTable :=
  match (root.atPath ["on", "workflow_call", "inputs"]).bind Node.entries with
  | some entries => .ofList (entries.filterMap declared?)
  | none => .empty

theorem ofRoot_congr {root root' : Node} (h : root.child "on" = root'.child "on") :
    ofRoot root = ofRoot root' := by
  simp only [ofRoot, Node.atPath, h]

end InputTable

end WorkflowScript
