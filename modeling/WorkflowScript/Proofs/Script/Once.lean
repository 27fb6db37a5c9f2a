import WorkflowScript.Proofs.Script.Sources

namespace WorkflowScript

open Outcome Script

namespace Script

def JobBlock.first (block : JobBlock) : JobBlock := { block with sections := block.sections.take 1 }

inductive BlockFails (target : Target) (inputs : InputTable) (job : Job) :
    Option Nat → CompileError → Prop
  | expansion {e : CompileError} (h : Matrix.expand job = .error e) : BlockFails target inputs job none e
  | steps {e : CompileError} {combinations : List Combination}
      (hexpand : Matrix.expand job = .ok combinations) (h : job.runs = .error e) :
      BlockFails target inputs job none e
  | combination {e : CompileError} {runs : List String} {before after : List Combination}
      {combination : Combination}
      (hexpand : Matrix.expand job = .ok (before ++ combination :: after))
      (hruns : job.runs = .ok runs) (hne : runs ≠ [])
      (hbefore : ∀ earlier ∈ before, ∃ part, sectionFor target inputs job runs earlier = .ok part)
      (h : sectionFor target inputs job runs combination = .error e) :
      BlockFails target inputs job (some before.length) e

section Block

variable {target : Target} {failFast : Bool} {inputs : InputTable} {job : Job}

theorem blockFor_once {block : Option JobBlock}
    (h : blockFor ⟨target, false, failFast⟩ inputs job = .ok block) :
    blockFor ⟨target, true, failFast⟩ inputs job = .ok (block.map JobBlock.first) := by
  rw [blockFor_eq_ok_iff] at h ⊢
  obtain ⟨combinations, runs, hexpand, hruns, ⟨hnil, rfl⟩ | ⟨hne, parts, hparts, rfl⟩⟩ := h
  · exact ⟨combinations, runs, hexpand, hruns, .inl ⟨hnil, rfl⟩⟩
  · exact ⟨combinations, runs, hexpand, hruns, .inr ⟨hne, parts.take 1, mapM_take hparts 1, rfl⟩⟩

theorem count_of_blockFor_ok {block : JobBlock}
    (h : blockFor ⟨target, false, failFast⟩ inputs job = .ok (some block)) :
    ∃ combinations, Matrix.expand job = .ok combinations ∧ block.job = job.name ∧
      block.count = combinations.length ∧ block.sections.length = combinations.length := by
  obtain ⟨combinations, runs, hexpand, -, ⟨-, hnone⟩ | ⟨-, parts, hparts, hsome⟩⟩ :=
    blockFor_eq_ok_iff.mp h
  · cases hnone
  · cases hsome
    exact ⟨combinations, hexpand, rfl, rfl, (mapM_eq_ok_iff.mp hparts).length_eq.symm⟩

theorem blockFor_eq_error_iff_fails {e : CompileError} :
    blockFor ⟨target, false, failFast⟩ inputs job = .error e ↔
      ∃ place, BlockFails target inputs job place e := by
  rw [blockFor_eq_error_iff]
  constructor
  · rintro (h | ⟨combinations, hexpand, h | ⟨runs, hruns, hne, h⟩⟩)
    · exact ⟨none, .expansion h⟩
    · exact ⟨none, .steps hexpand h⟩
    · obtain ⟨before, combination, after, hsplit, hbefore, herror⟩ := mapM_eq_error_iff.mp h
      cases (show combinations = _ from hsplit)
      exact ⟨_, .combination hexpand hruns hne hbefore herror⟩
  · rintro ⟨place, h | ⟨hexpand, h⟩ | ⟨hexpand, hruns, hne, hbefore, h⟩⟩
    · exact .inl h
    · exact .inr ⟨_, hexpand, .inl h⟩
    · refine .inr ⟨_, hexpand, .inr ⟨_, hruns, hne, ?_⟩⟩
      exact mapM_eq_error_iff.mpr ⟨_, _, _, rfl, hbefore, h⟩

theorem blockFor_once_eq_error {place : Option Nat} {e : CompileError}
    (h : BlockFails target inputs job place e) (hplace : place = none ∨ place = some 0) :
    blockFor ⟨target, true, failFast⟩ inputs job = .error e := by
  rw [blockFor_eq_error_iff]
  cases h with
  | expansion h => exact .inl h
  | steps hexpand h => exact .inr ⟨_, hexpand, .inl h⟩
  | @combination _ runs before after combination hexpand hruns hne hbefore h =>
    have hnil : before = [] := by simpa using hplace
    subst hnil
    refine .inr ⟨_, hexpand, .inr ⟨_, hruns, hne, ?_⟩⟩
    exact mapM_eq_error_iff.mpr ⟨[], combination, [], rfl, by simp, h⟩

end Block

end Script

namespace Workflow

inductive CompileFails (workflow : Workflow) (target : Target) : Option Nat → CompileError → Prop
  | table {e : CompileError} (h : JobTable.ofRoot workflow.root = .error e) :
      CompileFails workflow target none e
  | noJobs {table : JobTable} (htable : JobTable.ofRoot workflow.root = .ok table)
      (h : table.isEmpty = true) : CompileFails workflow target none .noJobs
  | job {table : JobTable} {before after : List Job} {job : Job} {place : Option Nat} {e : CompileError}
      (htable : JobTable.ofRoot workflow.root = .ok table)
      (hsplit : table.jobs = before ++ job :: after)
      (hbefore : ∀ earlier ∈ before, ∀ place e,
        ¬ BlockFails target (InputTable.ofRoot workflow.root) earlier place e)
      (h : BlockFails target (InputTable.ofRoot workflow.root) job place e) :
      CompileFails workflow target place e

variable {workflow : Workflow} {target : Target} {failFast : Bool}

theorem exists_blockFor_iff_not_fails {inputs : InputTable} {job : Job} :
    (∃ block, blockFor ⟨target, false, failFast⟩ inputs job = .ok block) ↔
      ∀ place e, ¬ BlockFails target inputs job place e := by
  constructor
  · rintro ⟨block, hblock⟩ place e h
    rw [blockFor_eq_error_iff_fails.mpr ⟨place, h⟩] at hblock
    cases hblock
  · intro h
    rcases exists_ok_or_error (blockFor ⟨target, false, failFast⟩ inputs job) with hok | ⟨e, he⟩
    · exact hok
    · obtain ⟨place, hfails⟩ := blockFor_eq_error_iff_fails.mp he
      exact absurd hfails (h place e)

theorem isEmpty_eq_false_of_split {table : JobTable} {before after : List Job} {job : Job}
    (h : table.jobs = before ++ job :: after) : table.isEmpty = false := by
  rw [← Bool.not_eq_true]
  intro hempty
  rw [NameTable.isEmpty, List.isEmpty_iff] at hempty
  rw [JobTable.jobs, NameTable.toList, hempty] at h
  simp at h

theorem compile_eq_error_iff_fails {e : CompileError} :
    workflow.compile ⟨target, false, failFast⟩ = .error e ↔
      ∃ place, workflow.CompileFails target place e := by
  rw [compile_eq_error_iff_cases]
  constructor
  · rintro (h | ⟨table, htable, ⟨hempty, rfl⟩ | ⟨-, h⟩⟩)
    · exact ⟨none, .table h⟩
    · exact ⟨none, .noJobs htable hempty⟩
    · obtain ⟨before, job, after, hsplit, hbefore, herror⟩ := mapM_eq_error_iff.mp h
      obtain ⟨place, hfails⟩ := blockFor_eq_error_iff_fails.mp herror
      exact ⟨place, .job htable hsplit
        (fun earlier hmem => exists_blockFor_iff_not_fails.mp (hbefore earlier hmem)) hfails⟩
  · rintro ⟨place, h | ⟨htable, hempty⟩ | ⟨htable, hsplit, hbefore, hfails⟩⟩
    · exact .inl h
    · exact .inr ⟨_, htable, .inl ⟨hempty, rfl⟩⟩
    · refine .inr ⟨_, htable, .inr ⟨isEmpty_eq_false_of_split hsplit, ?_⟩⟩
      exact mapM_eq_error_iff.mpr ⟨_, _, _, hsplit,
        fun earlier hmem => exists_blockFor_iff_not_fails.mpr (hbefore earlier hmem),
        blockFor_eq_error_iff_fails.mpr ⟨place, hfails⟩⟩

theorem compile_once_eq_error {place : Option Nat} {e : CompileError}
    (h : workflow.CompileFails target place e) (hplace : place = none ∨ place = some 0) :
    workflow.compile ⟨target, true, failFast⟩ = .error e := by
  rw [compile_eq_error_iff_cases]
  cases h with
  | table h => exact .inl h
  | noJobs htable hempty => exact .inr ⟨_, htable, .inl ⟨hempty, rfl⟩⟩
  | job htable hsplit hbefore hfails =>
    refine .inr ⟨_, htable, .inr ⟨isEmpty_eq_false_of_split hsplit, ?_⟩⟩
    refine mapM_eq_error_iff.mpr ⟨_, _, _, hsplit, ?_, blockFor_once_eq_error hfails hplace⟩
    -- jobs that compile with all their combinations compile with the first one
    intro earlier hmem
    obtain ⟨block, hblock⟩ : ∃ block, blockFor ⟨target, false, failFast⟩ _ earlier = .ok block :=
      exists_blockFor_iff_not_fails.mpr (hbefore earlier hmem)
    exact ⟨_, blockFor_once hblock⟩

theorem compile_once {script : Script}
    (h : workflow.compile ⟨target, false, failFast⟩ = .ok script) :
    workflow.compile ⟨target, true, failFast⟩ =
      .ok ⟨⟨target, true, failFast⟩, script.inputs, script.blocks.map JobBlock.first⟩ := by
  obtain ⟨table, blocks, htable, hne, hblocks, rfl⟩ := compile_eq_ok_iff.mp h
  refine compile_eq_ok_iff.mpr ⟨table, blocks.map (Option.map JobBlock.first), htable, hne, ?_, ?_⟩
  · rw [mapM_eq_ok_iff, List.forall₂_map_right_iff]
    exact (mapM_eq_ok_iff.mp hblocks).imp fun job block => blockFor_once
  · rw [List.flatMap_map, List.map_flatMap]
    simp only [Option.toList_map]

theorem count_of_compile_ok {script : Script}
    (h : workflow.compile ⟨target, false, failFast⟩ = .ok script) :
    ∀ block ∈ script.blocks, ∃ job ∈ declaredJobs workflow.root, ∃ combinations,
      Matrix.expand job = .ok combinations ∧ block.job = job.name ∧
      block.count = combinations.length ∧ block.sections.length = combinations.length := by
  intro block hblock
  obtain ⟨job, hjob, hok⟩ := exists_job_of_mem_blocks h hblock
  exact ⟨job, hjob, count_of_blockFor_ok hok⟩

theorem once_truncates (workflow : Workflow) (target : Target) (failFast : Bool) :
    (∀ script, workflow.compile ⟨target, false, failFast⟩ = .ok script →
      ∃ once, workflow.compile ⟨target, true, failFast⟩ = .ok once ∧
        script.lines = preamble ⟨target, false, failFast⟩ ++ inputLines script.inputs ++
          (script.blocks.map fun block => JobBlock.banner block.job block.count ++
            (block.sections.map Section.lines).flatten).flatten ++ footer target ∧
        once.lines = preamble ⟨target, false, failFast⟩ ++ inputLines script.inputs ++
          (script.blocks.map fun block => JobBlock.banner block.job block.count ++
            ((block.sections.map Section.lines).take 1).flatten).flatten ++ footer target ∧
        ∀ block ∈ script.blocks, ∃ job ∈ declaredJobs workflow.root, ∃ combinations,
          Matrix.expand job = .ok combinations ∧ block.job = job.name ∧
          block.count = combinations.length ∧ block.sections.length = combinations.length) ∧
    (∀ e, workflow.compile ⟨target, false, failFast⟩ = .error e ↔
      ∃ place, workflow.CompileFails target place e) ∧
    ∀ place e, workflow.CompileFails target place e → place = none ∨ place = some 0 →
      workflow.compile ⟨target, true, failFast⟩ = .error e := by
  refine ⟨?_, fun e => compile_eq_error_iff_fails, fun place e => compile_once_eq_error⟩
  intro script hscript
  have honce := compile_once hscript
  refine ⟨_, honce, ?_, ?_, count_of_compile_ok hscript⟩
  · obtain ⟨table, blocks, -, -, -, rfl⟩ := compile_eq_ok_iff.mp hscript
    simp only [Script.lines, List.flatMap_def]
    rfl
  · simp only [Script.lines, List.flatMap_def, List.map_map, ← List.map_take]
    rfl

section CrossPlatform

def crossPlatform : Job :=
  ⟨"test", .mapping [(.string "strategy", .mapping [(.string "matrix", .mapping
      [(.string "os", .sequence [.string "ubuntu-latest", .string "windows-latest"])])]),
    (.string "runs-on", .string "$\x7b\x7b matrix.os \x7d\x7d"),
    (.string "steps", .sequence [.mapping [(.string "run", .string "echo hi")]])]⟩

def withoutPlatforms : Job :=
  ⟨"lint", .mapping [(.string "strategy", .mapping [(.string "matrix", .mapping
    [(.string "os", .sequence [])])])]⟩

theorem compileFails_withoutPlatforms :
    (ofJobs [withoutPlatforms]).CompileFails .shell none (.structural "lint" (.axisEmpty "os")) := by
  obtain ⟨table, htable⟩ : ∃ table, JobTable.ofRoot (ofJobs [withoutPlatforms]).root = .ok table :=
    exists_of_isOk (by decide +kernel)
  have hjobs : table.jobs = [] ++ withoutPlatforms :: [] := JobTable.jobs_of_ofRoot_ok htable
  exact .job htable hjobs (by simp) (.expansion rfl)

theorem once_of_crossPlatform :
    (∃ script once, (ofJobs [crossPlatform]).compile ⟨.shell, false, true⟩ = .ok script ∧
      (ofJobs [crossPlatform]).compile ⟨.shell, true, true⟩ = .ok once ∧
      (∀ block ∈ script.blocks, block.count = block.sections.length) ∧
      once.lines = ["set -e", "", "", "", rule '=', "echo job 'test': matrix count=2", rule '=', "", "",
        rule '-', "echo test: os=ubuntu-latest", rule '-', "", "echo hi"]) ∧
    (ofJobs [withoutPlatforms]).compile ⟨.shell, true, true⟩ =
      .error (.structural "lint" (.axisEmpty "os")) := by
  obtain ⟨hok, -, -⟩ := once_truncates (ofJobs [crossPlatform]) .shell true
  constructor
  · obtain ⟨script, hscript⟩ := exists_of_isOk
      (x := (ofJobs [crossPlatform]).compile ⟨.shell, false, true⟩) (by decide +kernel)
    obtain ⟨once, honce, -, -, hcounts⟩ := hok script hscript
    refine ⟨script, once, hscript, honce, ?_, ?_⟩
    · intro block hblock
      obtain ⟨job, -, combinations, -, -, hcount, hlength⟩ := hcounts block hblock
      rw [hcount, hlength]
    · have hlines : ((ofJobs [crossPlatform]).compile ⟨.shell, true, true⟩).map Script.lines =
          .ok ["set -e", "", "", "", rule '=', "echo job 'test': matrix count=2", rule '=', "", "",
            rule '-', "echo test: os=ubuntu-latest", rule '-', "", "echo hi"] := by
        decide +kernel
      rw [honce] at hlines
      exact Except.ok.inj hlines
  · exact (once_truncates (ofJobs [withoutPlatforms]) .shell true).2.2 none _
      compileFails_withoutPlatforms (.inl rfl)

end CrossPlatform

end Workflow

end WorkflowScript
