import WorkflowScript.CompileError
import WorkflowScript.Document.Node
import WorkflowScript.NameTable

namespace WorkflowScript

open Document

structure Job where
  name : String
  body : Node

namespace Job

def runsOn (job : Job) : Option Node := (job.body.child "runs-on").filter fun n => !n.isNull

def matrix (job : Job) : Option Node :=
  (job.body.atPath ["strategy", "matrix"]).filter fun n => n.kind == .mapping

def steps (job : Job) : Option (List Node) := (job.body.child "steps").bind Node.items

end Job

abbrev JobTable := NameTable Job

namespace JobTable

def declared? (entry : String × Node) : Option Job :=
  if entry.2.kind = .mapping then some ⟨entry.1, entry.2⟩ else none

def addAll (table : JobTable) : List Job → Except CompileError JobTable
  | [] => .ok table
  | job :: jobs =>
    if table.contains job.name then .error (.structural job.name .declaredTwice)
    else addAll (table.insert job.name job) jobs

def ofRoot (root : Node) : Except CompileError JobTable :=
  match (root.child "jobs").bind Node.entries with
  | some entries => addAll .empty (entries.filterMap declared?)
  | none => .ok .empty

def jobs (table : JobTable) : List Job := table.toList.map Prod.snd

end JobTable

end WorkflowScript
