import WorkflowScript.Template.Bindings
import WorkflowScript.Workflow.Job

namespace WorkflowScript.Matrix

open Document

structure Axis where
  name : String
  values : List String
  deriving DecidableEq, Repr

def axisValues (job : String) (axis : String) (node : Node) : Except CompileError (List String) :=
  match node.items with
  | none => .error (.structural job (.axisNotSequence axis))
  | some items =>
    match items.mapM Node.scalarText with
    | none => .error (.structural job (.axisNotScalar axis))
    | some [] => .error (.structural job (.axisEmpty axis))
    | some values => .ok (values.map quoteIfNeeded)

def axisTable (job : String) (table : NameTable (List String)) :
    List (String × Node) → Except CompileError (NameTable (List String))
  | [] => .ok table
  | (axis, node) :: entries =>
    (axisValues job axis node).bind fun values => axisTable job (table.insert axis values) entries

def axes (job : String) (entries : List (String × Node)) : Except CompileError (List Axis) :=
  (axisTable job .empty entries).map fun table => table.toList.map fun e => ⟨e.1, e.2⟩

/-- A walk through the values of the axes. One combination goes all the way: what a branch has bound
stays bound until a later branch binds the axis again. -/
structure Walk where
  current : Combination
  found : List Combination

def Walk.bind (walk : Walk) (axis value : String) : Walk :=
  { walk with current := walk.current.bind axis value }

def Walk.keep (walk : Walk) : Walk := { walk with found := walk.found ++ [walk.current] }

def combine : List Axis → Walk → Walk
  | [], walk => walk.keep
  | axis :: axes, walk =>
    axis.values.foldl (fun walk value => combine axes (walk.bind axis.name value)) walk

def expand (job : Job) : Except CompileError (List Combination) :=
  match job.matrix with
  | none => .ok [.none]
  | some node =>
    (axes job.name (node.entries.getD [])).map fun axes => (combine axes ⟨.none, []⟩).found

end WorkflowScript.Matrix
