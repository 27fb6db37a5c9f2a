import WorkflowScript.Proofs.Document.Untagged
import WorkflowScript.Proofs.Workflow.Declared
import WorkflowScript.Workflow.Inputs
import WorkflowScript.Workflow.Matrix
import WorkflowScript.Workflow.Runner
import WorkflowScript.Workflow.Step

namespace WorkflowScript

open Document

namespace Job

def untagged (job : Job) : Job := { job with body := job.body.untagged }

theorem runsOn_untagged (job : Job) : job.untagged.runsOn = job.runsOn.map Node.untagged := by
  rw [runsOn, untagged, Node.child_untagged,
    Node.filter_untagged (fun node => by rw [Node.isNull_untagged]), runsOn]

theorem matrix_untagged (job : Job) : job.untagged.matrix = job.matrix.map Node.untagged := by
  rw [matrix, untagged, Node.atPath_untagged,
    Node.filter_untagged (fun node => by rw [Node.kind_untagged]), matrix]

theorem steps_untagged (job : Job) : job.untagged.steps = job.steps.map (List.map Node.untagged) := by
  rw [steps, untagged, Node.child_untagged, steps]
  cases job.body.child "steps" with
  | none => rfl
  | some steps => exact Node.items_untagged steps

end Job

namespace Matrix

theorem mapM_scalarText_untagged (items : List Node) :
    (items.map Node.untagged).mapM Node.scalarText = items.mapM Node.scalarText := by
  rw [List.mapM_map, Function.comp_def]
  simp only [Node.scalarText_untagged]

theorem axisValues_untagged (job axis : String) (node : Node) :
    axisValues job axis node.untagged = axisValues job axis node := by
  rw [axisValues, axisValues, Node.items_untagged]
  cases node.items with
  | none => rfl
  | some items =>
    simp only [Option.map_some]
    rw [mapM_scalarText_untagged]

theorem axisTable_untagged (job : String) (table : NameTable (List String))
    (entries : List (String × Node)) :
    axisTable job table (entries.map Node.untagValue) = axisTable job table entries := by
  induction entries generalizing table with
  | nil => rfl
  | cons entry entries ih =>
    obtain ⟨axis, node⟩ := entry
    rw [List.map_cons, Node.untagValue, axisTable, axisTable, axisValues_untagged]
    simp only [ih]

theorem expand_untagged (job : Job) : expand job.untagged = expand job := by
  rw [expand, expand, Job.matrix_untagged]
  cases job.matrix with
  | none => rfl
  | some node =>
    simp only [Option.map_some, axes, Node.entries_untagged]
    cases node.entries with
    | none => rfl
    | some entries => simp only [Option.map_some, Option.getD_some, axisTable_untagged, Job.untagged]

end Matrix

namespace Runner

theorem resolveLabels_untagged (job : String) (bindings : Bindings) (entries : List Node) :
    resolveLabels job bindings (entries.map Node.untagged) = resolveLabels job bindings entries := by
  induction entries with
  | nil => rfl
  | cons entry entries ih =>
    rw [List.map_cons, resolveLabels, resolveLabels, Node.scalarText_untagged, ih]

theorem resolve_untagged (job : Job) (bindings : Bindings) :
    resolve job.untagged bindings = resolve job bindings := by
  rw [resolve, resolve, Job.runsOn_untagged]
  cases job.runsOn with
  | none => rfl
  | some node =>
    simp only [Option.map_some, Node.kind_untagged, Node.scalarText_untagged, Node.items_untagged]
    cases node.items with
    | none => rfl
    | some items =>
      simp only [Option.map_some, Option.getD_some, resolveLabels_untagged, Job.untagged]

end Runner

namespace Step

theorem ofNode?_untagged (node : Node) : ofNode? node.untagged = ofNode? node := by
  have hshell : ((node.child "shell").map Node.untagged).filter (fun n => !n.isNull) =
      ((node.child "shell").filter fun n => !n.isNull).map Node.untagged :=
    Node.filter_untagged (fun n => by rw [Node.isNull_untagged]) _
  simp only [ofNode?, Node.isSome_entries_untagged, Node.child_untagged, Node.bind_scalarText_untagged,
    hshell, Option.map_map, Function.comp_def, Node.scalarText_untagged]

theorem runsFrom_untagged (job : String) (place : Nat) (items : List Node) :
    runsFrom job place (items.map Node.untagged) = runsFrom job place items := by
  induction items generalizing place with
  | nil => rfl
  | cons item items ih => rw [List.map_cons, runsFrom, runsFrom, ofNode?_untagged, ih]

end Step

theorem Job.runs_untagged (job : Job) : job.untagged.runs = job.runs := by
  rw [runs, runs, steps_untagged]
  cases job.steps with
  | none => rfl
  | some items => exact Step.runsFrom_untagged job.name 1 items

namespace InputTable

theorem declared?_untagged (entry : String × Node) :
    declared? (Node.untagValue entry) = declared? entry := by
  rw [declared?, Node.untagValue, Node.isSome_entries_untagged, declared?, Input.ofNode,
    Node.child_untagged, Node.bind_scalarText_untagged]
  rfl

theorem ofRoot_untagged (root : Node) : ofRoot root.untagged = ofRoot root := by
  rw [ofRoot, ofRoot, Node.atPath_untagged]
  cases root.atPath ["on", "workflow_call", "inputs"] with
  | none => rfl
  | some inputs =>
    rw [Option.map_some, Option.bind_some, Option.bind_some, Node.entries_untagged]
    cases inputs.entries with
    | none => rfl
    | some entries =>
      simp only [Option.map_some, List.filterMap_map, Function.comp_def, declared?_untagged]

end InputTable

theorem JobTable.declared?_untagged (entry : String × Node) :
    declared? (Node.untagValue entry) = (declared? entry).map Job.untagged := by
  rw [declared?, Node.untagValue, Node.kind_untagged, declared?]
  split <;> rfl

theorem declaredJobs_untagged (root : Node) :
    declaredJobs root.untagged = (declaredJobs root).map Job.untagged := by
  rw [declaredJobs, declaredJobs, Node.child_untagged]
  cases root.child "jobs" with
  | none => rfl
  | some jobs =>
    rw [Option.map_some, Option.bind_some, Option.bind_some, Node.entries_untagged]
    cases jobs.entries with
    | none => rfl
    | some entries =>
      simp only [Option.map_some, Option.getD_some, List.filterMap_map, List.map_filterMap,
        Function.comp_def, JobTable.declared?_untagged]

end WorkflowScript
