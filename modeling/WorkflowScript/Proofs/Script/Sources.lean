import WorkflowScript.Proofs.Script.Jobs
import WorkflowScript.Proofs.Script.Sections
import WorkflowScript.Proofs.Script.Success

namespace WorkflowScript.Script

open Outcome

variable {workflow : Workflow} {options : Options}

theorem exists_job_of_mem_blocks {script : Script} (h : workflow.compile options = .ok script)
    {block : JobBlock} (hblock : block ∈ script.blocks) :
    ∃ job ∈ declaredJobs workflow.root,
      blockFor options (InputTable.ofRoot workflow.root) job = .ok (some block) := by
  obtain ⟨table, blocks, htable, -, hblocks, rfl⟩ := Workflow.compile_eq_ok_iff.mp h
  obtain ⟨added, hadded, hblock⟩ := List.mem_flatMap.mp hblock
  obtain ⟨job, hjob, hok⟩ := exists_of_mem_mapM hblocks hadded
  rw [JobTable.jobs_of_ofRoot_ok htable] at hjob
  rw [Option.mem_toList.mp hblock] at hok
  exact ⟨job, hjob, hok⟩

theorem name_of_blockFor {inputs : InputTable} {job : Job} {block : JobBlock}
    (h : blockFor options inputs job = .ok (some block)) : block.job = job.name := by
  obtain ⟨combinations, runs, -, -, ⟨-, hnone⟩ | ⟨-, parts, -, hsome⟩⟩ := blockFor_eq_ok_iff.mp h
  · cases hnone
  · cases hsome
    rfl

theorem exists_combination_of_mem_sections {inputs : InputTable} {job : Job} {block : JobBlock}
    (h : blockFor options inputs job = .ok (some block)) {part : Section} (hpart : part ∈ block.sections) :
    ∃ runs combination, job.runs = .ok runs ∧ Retained options job combination ∧
      sectionFor options.target inputs job runs combination = .ok part := by
  obtain ⟨combinations, runs, hexpand, hruns, ⟨-, hnone⟩ | ⟨-, parts, hparts, hsome⟩⟩ :=
    blockFor_eq_ok_iff.mp h
  · cases hnone
  · cases hsome
    obtain ⟨combination, hkept, hok⟩ := exists_of_mem_mapM hparts hpart
    exact ⟨runs, combination, hruns, ⟨combinations, hexpand, hkept⟩, hok⟩

theorem exists_run_of_mem_steps {target : Target} {bindings : Bindings} {runs : List String}
    {fragments : List (List String)} (h : steps target bindings runs = .ok fragments)
    {fragment : List String} (hfragment : fragment ∈ fragments) :
    ∃ run ∈ runs, ∃ lines, Fragment.transform target bindings run = .ok lines ∧
      fragment = Fragment.trimBlock lines := by
  rw [steps_eq] at h
  obtain ⟨run, hmem, hrun⟩ := exists_of_mem_mapM h hfragment
  obtain ⟨lines, hlines, heq⟩ := map_eq_ok_iff.mp hrun
  exact ⟨run, hmem, lines, hlines, heq.symm⟩

theorem exists_transform_of_mem_body {script : Script} (h : workflow.compile options = .ok script)
    {block : JobBlock} (hblock : block ∈ script.blocks) {part : Section} (hpart : part ∈ block.sections)
    {fragments : List (List String)} (hbody : part.body = .steps fragments) {fragment : List String}
    (hfragment : fragment ∈ fragments) :
    ∃ bindings run lines, Fragment.transform options.target bindings run = .ok lines ∧
      fragment = Fragment.trimBlock lines := by
  obtain ⟨job, -, hjob⟩ := exists_job_of_mem_blocks h hblock
  obtain ⟨runs, combination, -, -, hsection⟩ := exists_combination_of_mem_sections hjob hpart
  obtain ⟨label, -, ⟨-, found, hsteps, rfl⟩ | ⟨-, rfl⟩⟩ := sectionFor_eq_ok_iff.mp hsection
  · cases hbody
    obtain ⟨run, -, lines, hlines, heq⟩ := exists_run_of_mem_steps hsteps hfragment
    exact ⟨_, run, lines, hlines, heq⟩
  · cases hbody

end WorkflowScript.Script
