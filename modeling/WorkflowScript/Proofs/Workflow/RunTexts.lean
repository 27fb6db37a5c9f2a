import WorkflowScript.Proofs.Document.Change
import WorkflowScript.Proofs.Workflow.Declared
import WorkflowScript.Proofs.Workflow.Steps
import WorkflowScript.Script.Compile

namespace WorkflowScript

open Document Outcome

namespace Document.Node

def withRun (text : String) (step : Node) : Node := step.changeChild (withText text) "run"

def withRuns (texts : Nat → String) (body : Node) : Node :=
  body.changeChild (changeItems fun i step => step.withRun (texts i)) "steps"

end Document.Node

theorem runText_withRun (text : String) (step : Node) :
    runText (step.withRun text) = (runText step).map fun _ => text := by
  rw [runText, Node.withRun, Node.child_changeChild_self, runText]
  cases step.child "run" with
  | none => rfl
  | some run => exact Node.scalarText_withText text run

namespace Step

theorem ofNode?_withRun (text : String) (node : Node) :
    ofNode? (node.withRun text) =
      (ofNode? node).map fun step => { step with run := step.run.map fun _ => text } := by
  have hrun : ((node.withRun text).child "run").bind Node.scalarText =
      ((node.child "run").bind Node.scalarText).map fun _ => text := runText_withRun text node
  have hother : ∀ key, key ≠ "run" → (node.withRun text).child key = node.child key :=
    fun key hkey => Node.child_changeChild_of_ne hkey node
  rw [ofNode?, hrun, hother _ (by decide), hother _ (by decide), Node.withRun,
    Node.isSome_entries_changeChild, ofNode?]
  split <;> rfl

theorem runsFrom_withRun (job : String) (place : Nat) (items : List Node) (texts : Nat → String) :
    Alike Eq (fun runs runs' => runs.length = runs'.length) (runsFrom job place items)
      (runsFrom job place (items.mapIdx fun i step => step.withRun (texts i))) := by
  induction items generalizing place texts with
  | nil => exact .ok rfl
  | cons item items ih =>
    have hrest := ih (place + 1) fun i => texts (i + 1)
    rw [List.mapIdx_cons, runsFrom, runsFrom, ofNode?_withRun]
    cases ofNode? item with
    | none => exact hrest
    | some step =>
      change Alike Eq _ (if step.hasOwnShell = true then _ else _) (if step.hasOwnShell = true then _ else _)
      split
      · exact .error rfl
      · have hown : step.run.toList.length = (step.run.map fun _ => texts 0).toList.length := by
          cases step.run <;> rfl
        refine hrest.map fun runs runs' h => ?_
        change (step.run.toList ++ runs).length = ((step.run.map fun _ => texts 0).toList ++ runs').length
        rw [List.length_append, List.length_append, hown, h]

end Step

namespace Job

def withRuns (texts : Nat → String) (job : Job) : Job := { job with body := job.body.withRuns texts }

variable {texts : Nat → String}

theorem child_withRuns {key : String} (h : key ≠ "steps") (job : Job) :
    (job.withRuns texts).body.child key = job.body.child key :=
  Node.child_changeChild_of_ne h job.body

theorem expand_withRuns (job : Job) : Matrix.expand (job.withRuns texts) = Matrix.expand job := by
  have hmatrix : (job.withRuns texts).matrix = job.matrix := by
    simp only [matrix, Node.atPath, child_withRuns (show "strategy" ≠ "steps" by decide)]
  rw [Matrix.expand, Matrix.expand, hmatrix]
  rfl

theorem resolve_withRuns (job : Job) (bindings : Bindings) :
    Runner.resolve (job.withRuns texts) bindings = Runner.resolve job bindings := by
  have hrunner : (job.withRuns texts).runsOn = job.runsOn := by
    rw [runsOn, runsOn, child_withRuns (by decide)]
  rw [Runner.resolve, Runner.resolve, hrunner]
  rfl

theorem steps_withRuns (job : Job) : (job.withRuns texts).steps =
    job.steps.map (List.mapIdx fun i step => step.withRun (texts i)) := by
  have hsteps : (job.withRuns texts).body.child "steps" = (job.body.child "steps").map
      (Node.changeItems fun i step => step.withRun (texts i)) := Node.child_changeChild_self job.body
  rw [steps, hsteps, steps]
  cases job.body.child "steps" with
  | none => rfl
  | some steps => exact Node.items_changeItems _ steps

theorem runs_withRuns (job : Job) (texts : Nat → String) :
    Alike Eq (fun runs runs' => runs.length = runs'.length) job.runs (job.withRuns texts).runs := by
  rw [runs, runs, steps_withRuns]
  cases job.steps with
  | none => exact .ok rfl
  | some items => exact Step.runsFrom_withRun job.name 1 items texts

theorem runTexts_withRuns (job : Job) : (job.withRuns texts).runTexts =
    (job.steps.getD []).zipIdx.filterMap fun step => (runText step.1).map fun _ => texts step.2 := by
  rw [runTexts, steps_withRuns]
  cases job.steps with
  | none => rfl
  | some items =>
    rw [Option.map_some, Option.getD_some, Option.getD_some, List.mapIdx_eq_zipIdx_map,
      List.filterMap_map]
    simp only [Function.comp_def, runText_withRun]

end Job

def jobAt? (root : Node) (place : Nat) : Option Job :=
  (((root.child "jobs").bind Node.entries).getD [])[place]?.bind JobTable.declared?

theorem mem_declaredJobs_iff {root : Node} {job : Job} :
    job ∈ declaredJobs root ↔ ∃ place, jobAt? root place = some job := by
  rw [declaredJobs, List.mem_filterMap]
  constructor
  · rintro ⟨entry, hentry, hjob⟩
    obtain ⟨place, hplace⟩ := List.mem_iff_getElem?.mp hentry
    exact ⟨place, Option.bind_eq_some_iff.mpr ⟨entry, hplace, hjob⟩⟩
  · rintro ⟨place, hjob⟩
    obtain ⟨entry, hplace, hdeclared⟩ := Option.bind_eq_some_iff.mp hjob
    exact ⟨entry, List.mem_of_getElem? hplace, hdeclared⟩

namespace Workflow

def withRuns (workflow : Workflow) (place : Nat) (texts : Nat → String) : Workflow :=
  ⟨workflow.root.changeChild
    (Node.mapNamed fun i body => if i = place then body.withRuns texts else body) "jobs", by
      rw [Node.kind_changeChild, workflow.isMapping]⟩

variable (workflow : Workflow) (place : Nat) (texts : Nat → String)

theorem inputs_withRuns :
    InputTable.ofRoot (workflow.withRuns place texts).root = InputTable.ofRoot workflow.root :=
  InputTable.ofRoot_congr (Node.child_changeChild_of_ne (by decide) workflow.root)

theorem entries_withRuns :
    (((workflow.withRuns place texts).root.child "jobs").bind Node.entries).getD [] =
      (((workflow.root.child "jobs").bind Node.entries).getD []).mapIdx fun i entry =>
        (entry.1, if i = place then entry.2.withRuns texts else entry.2) := by
  rw [withRuns, Node.child_changeChild_self]
  cases workflow.root.child "jobs" with
  | none => rfl
  | some jobs =>
    rw [Option.map_some, Option.bind_some, Option.bind_some, Node.entries_mapNamed]
    cases jobs.entries <;> rfl

theorem declared?_withRuns (entry : String × Node) :
    JobTable.declared? (entry.1, entry.2.withRuns texts) =
      (JobTable.declared? entry).map (Job.withRuns texts) := by
  rw [JobTable.declared?, Node.withRuns, Node.kind_changeChild, JobTable.declared?]
  split <;> rfl

theorem jobAt?_withRuns : jobAt? (workflow.withRuns place texts).root place =
    (jobAt? workflow.root place).map (Job.withRuns texts) := by
  rw [jobAt?, entries_withRuns, List.getElem?_mapIdx, jobAt?]
  cases (((workflow.root.child "jobs").bind Node.entries).getD [])[place]? with
  | none => rfl
  | some entry =>
    simp only [Option.map_some, Option.bind_some, if_true]
    exact declared?_withRuns texts entry

theorem forall₂_declaredJobs_withRuns {R : Job → Job → Prop} (hrefl : ∀ job, R job job)
    (hjob : ∀ job, jobAt? workflow.root place = some job → R job (job.withRuns texts)) :
    List.Forall₂ R (declaredJobs workflow.root) (declaredJobs (workflow.withRuns place texts).root) := by
  have hentries : List.Forall₂
      (fun entry entry' => Option.Rel R (JobTable.declared? entry) (JobTable.declared? entry'))
      (((workflow.root.child "jobs").bind Node.entries).getD [])
      (((workflow.withRuns place texts).root.child "jobs").bind Node.entries |>.getD []) := by
    rw [entries_withRuns, List.forall₂_iff_get]
    refine ⟨by simp, ?_⟩
    intro i hi hi'
    rw [List.get_eq_getElem, List.get_eq_getElem, List.getElem_mapIdx]
    split
    · next hplace =>
      rw [declared?_withRuns]
      cases hdeclared : JobTable.declared?
          (((workflow.root.child "jobs").bind Node.entries).getD [])[i] with
      | none => exact .none
      | some job =>
        refine .some (hjob job ?_)
        rw [jobAt?, ← hplace, List.getElem?_eq_getElem hi]
        exact hdeclared
    · cases JobTable.declared? (((workflow.root.child "jobs").bind Node.entries).getD [])[i] with
      | none => exact .none
      | some job => exact .some (hrefl job)
  exact List.rel_filterMap (fun _ _ h => h) hentries

end Workflow

end WorkflowScript
