import WorkflowScript.Script.Fragment
import WorkflowScript.Script.Layout
import WorkflowScript.Workflow.Inputs
import WorkflowScript.Workflow.Matrix
import WorkflowScript.Workflow.Runner
import WorkflowScript.Workflow.Step

namespace WorkflowScript

structure Workflow where
  root : Document.Node
  isMapping : root.kind = .mapping

namespace Script

def steps (target : Target) (bindings : Bindings) : List String → Except CompileError (List (List String))
  | [] => .ok []
  | run :: runs => do
    let lines ← Fragment.transform target bindings run
    let rest ← steps target bindings runs
    return Fragment.trimBlock lines :: rest

def sectionFor (target : Target) (inputs : InputTable) (job : Job) (runs : List String)
    (combination : Combination) : Except CompileError Section := do
  let bindings : Bindings := ⟨inputs, combination⟩
  let title := job.name ++ ": " ++ combination.describe
  let label ← Runner.resolve job bindings
  if Runner.isSupported label then
    return ⟨title, .steps (← steps target bindings runs)⟩
  else return ⟨title, .unsupported label⟩

def sectionsFor (target : Target) (inputs : InputTable) (job : Job) (runs : List String) :
    List Combination → Except CompileError (List Section)
  | [] => .ok []
  | combination :: combinations => do
    let part ← sectionFor target inputs job runs combination
    let rest ← sectionsFor target inputs job runs combinations
    return part :: rest

def blockFor (options : Options) (inputs : InputTable) (job : Job) :
    Except CompileError (Option JobBlock) := do
  let combinations ← Matrix.expand job
  let runs ← job.runs
  if runs.isEmpty then return none
  let kept := if options.onceOnly then combinations.take 1 else combinations
  let parts ← sectionsFor options.target inputs job runs kept
  return some ⟨job.name, combinations.length, parts⟩

def blocksFor (options : Options) (inputs : InputTable) : List Job → Except CompileError (List JobBlock)
  | [] => .ok []
  | job :: jobs => do
    let block ← blockFor options inputs job
    let rest ← blocksFor options inputs jobs
    return block.toList ++ rest

def assemble (options : Options) (inputs : InputTable) (jobs : List Job) : Except CompileError Script :=
  (blocksFor options inputs jobs).map fun blocks => ⟨options, inputs, blocks⟩

end Script

namespace Workflow

def ofRoot? (root : Document.Node) : Option Workflow :=
  if h : root.kind = .mapping then some ⟨root, h⟩ else none

def compile (workflow : Workflow) (options : Script.Options) : Except CompileError Script := do
  let jobs ← JobTable.ofRoot workflow.root
  if jobs.isEmpty then .error .noJobs
  else Script.assemble options (InputTable.ofRoot workflow.root) jobs.jobs

end Workflow

end WorkflowScript
