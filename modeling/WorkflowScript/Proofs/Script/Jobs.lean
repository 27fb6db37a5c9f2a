import WorkflowScript.Proofs.Document.Replace
import WorkflowScript.Proofs.Outcome
import WorkflowScript.Proofs.Workflow.Declared
import WorkflowScript.Script.Compile

namespace WorkflowScript

open Document Outcome Script

namespace Script

theorem blocksFor_eq (options : Options) (inputs : InputTable) (jobs : List Job) :
    blocksFor options inputs jobs =
      (jobs.mapM (blockFor options inputs)).map fun blocks => blocks.flatMap Option.toList := by
  induction jobs with
  | nil => rfl
  | cons job jobs ih =>
    rw [blocksFor, List.mapM_cons, ih]
    cases blockFor options inputs job with
    | error e => rfl
    | ok block =>
      cases jobs.mapM (blockFor options inputs) with
      | error e => rfl
      | ok blocks => rfl

def addedLines (block : Option JobBlock) : List String := block.toList.flatMap JobBlock.lines

theorem lines_of_blocks (options : Options) (inputs : InputTable) (blocks : List (Option JobBlock)) :
    Script.lines ⟨options, inputs, blocks.flatMap Option.toList⟩ =
      preamble options ++ inputLines inputs ++ (blocks.map addedLines).flatten ++
        footer options.target := by
  have hadded : (blocks.flatMap Option.toList).flatMap JobBlock.lines =
      (blocks.map addedLines).flatten := by
    rw [List.flatMap_assoc, List.flatMap_def]
    rfl
  rw [Script.lines, hadded]

end Script

namespace Workflow

theorem compile_eq {workflow : Workflow} {table : JobTable} (options : Options)
    (htable : JobTable.ofRoot workflow.root = .ok table) (hne : table.isEmpty = false) :
    workflow.compile options =
      (table.jobs.mapM (blockFor options (InputTable.ofRoot workflow.root))).map fun blocks =>
        ⟨options, InputTable.ofRoot workflow.root, blocks.flatMap Option.toList⟩ := by
  rw [compile, htable]
  change (if table.isEmpty = true then _ else _) = _
  rw [hne, if_neg Bool.false_ne_true, assemble, blocksFor_eq]
  cases table.jobs.mapM (blockFor options (InputTable.ofRoot workflow.root)) <;> rfl

theorem exists_table_of_compile_ok {workflow : Workflow} {options : Options}
    {script : Script} (h : workflow.compile options = .ok script) :
    ∃ table, JobTable.ofRoot workflow.root = .ok table ∧ table.isEmpty = false := by
  rw [compile, bind_eq_ok_iff] at h
  obtain ⟨table, htable, hassemble⟩ := h
  refine ⟨table, htable, ?_⟩
  by_contra hempty
  rw [if_pos (Bool.of_not_eq_false hempty)] at hassemble
  cases hassemble

theorem compile_eq_ok_iff {workflow : Workflow} {options : Options} {script : Script} :
    workflow.compile options = .ok script ↔ ∃ table blocks,
      JobTable.ofRoot workflow.root = .ok table ∧ table.isEmpty = false ∧
      table.jobs.mapM (blockFor options (InputTable.ofRoot workflow.root)) = .ok blocks ∧
      script = ⟨options, InputTable.ofRoot workflow.root, blocks.flatMap Option.toList⟩ := by
  constructor
  · intro h
    obtain ⟨table, htable, hne⟩ := exists_table_of_compile_ok h
    rw [compile_eq options htable hne, map_eq_ok_iff] at h
    obtain ⟨blocks, hblocks, rfl⟩ := h
    exact ⟨table, blocks, htable, hne, hblocks, rfl⟩
  · rintro ⟨table, blocks, htable, hne, hblocks, rfl⟩
    rw [compile_eq options htable hne, hblocks]
    rfl

theorem compile_eq_error_iff_cases {workflow : Workflow} {options : Options} {e : CompileError} :
    workflow.compile options = .error e ↔ JobTable.ofRoot workflow.root = .error e ∨
      ∃ table, JobTable.ofRoot workflow.root = .ok table ∧
        ((table.isEmpty = true ∧ e = .noJobs) ∨ table.isEmpty = false ∧
          table.jobs.mapM (blockFor options (InputTable.ofRoot workflow.root)) = .error e) := by
  cases htable : JobTable.ofRoot workflow.root with
  | error e' => simp [compile, htable, bind, Except.bind]
  | ok table =>
    cases hempty : table.isEmpty with
    | true =>
      have hnoJobs : workflow.compile options = .error .noJobs := by
        rw [compile, htable]
        change (if table.isEmpty = true then _ else _) = _
        rw [if_pos hempty]
      simpa [hnoJobs, hempty] using eq_comm
    | false =>
      rw [compile_eq options htable hempty, map_eq_error_iff]
      simp [hempty]

def alone (workflow : Workflow) (job : Job) : Workflow :=
  ⟨workflow.root.setChild "jobs" (.mapping [(.string job.name, job.body)]), by
    rw [Node.kind_setChild]
    exact workflow.isMapping⟩

theorem inputs_alone (workflow : Workflow) (job : Job) :
    InputTable.ofRoot (workflow.alone job).root = InputTable.ofRoot workflow.root :=
  InputTable.ofRoot_congr (Node.child_setChild_of_ne (by decide) workflow.root)

theorem declaredJobs_alone {workflow : Workflow} {job : Job} (h : job ∈ declaredJobs workflow.root) :
    declaredJobs (workflow.alone job).root = [job] := by
  have hkind := kind_of_mem_declaredJobs h
  obtain ⟨jobs, hjobs⟩ : ∃ jobs, workflow.root.child "jobs" = some jobs := by
    cases hchild : workflow.root.child "jobs" with
    | none => simp [declaredJobs, hchild] at h
    | some jobs => exact ⟨jobs, rfl⟩
  have halone : (workflow.alone job).root.child "jobs" =
      some (.mapping [(.string job.name, job.body)]) := Node.child_setChild_self hjobs
  simp [declaredJobs, halone, Node.entries, Node.keyed?, Node.scalarText, JobTable.declared?,
    hkind]

theorem compile_alone {workflow : Workflow} {job : Job} (options : Options)
    (h : job ∈ declaredJobs workflow.root) :
    (workflow.alone job).compile options =
      (blockFor options (InputTable.ofRoot workflow.root) job).map fun block =>
        ⟨options, InputTable.ofRoot workflow.root, block.toList⟩ := by
  have hjobs := declaredJobs_alone h
  obtain ⟨table, htable⟩ : ∃ table, JobTable.ofRoot (workflow.alone job).root = .ok table := by
    rw [JobTable.exists_ofRoot_ok_iff, hjobs]
    exact List.nodup_singleton _
  have hne : table.isEmpty = false := by
    rw [← Bool.not_eq_true, JobTable.isEmpty_iff_of_ofRoot_ok htable, hjobs]
    exact List.cons_ne_nil _ _
  rw [compile_eq options htable hne, JobTable.jobs_of_ofRoot_ok htable, hjobs, mapM_singleton,
    inputs_alone]
  cases blockFor options (InputTable.ofRoot workflow.root) job with
  | error e => rfl
  | ok block => simp [Except.map]

def IsBlock (workflow : Workflow) (options : Options) (job : Job) (block : List String) : Prop :=
  ∃ script, (workflow.alone job).compile options = .ok script ∧
    script.lines = preamble options ++ inputLines (InputTable.ofRoot workflow.root) ++ block ++
      footer options.target

structure LaidOut (workflow : Workflow) (options : Options) (jobs : List Job)
    (blocks : List (List String)) (script : Script) : Prop where
  each : List.Forall₂ (workflow.IsBlock options) jobs blocks
  lines : script.lines = preamble options ++ inputLines (InputTable.ofRoot workflow.root) ++
    blocks.flatten ++ footer options.target

section Blocks

variable {workflow : Workflow} {options : Options}

theorem isBlock_addedLines {job : Job} {block : Option JobBlock}
    (hjob : job ∈ declaredJobs workflow.root)
    (h : blockFor options (InputTable.ofRoot workflow.root) job = .ok block) :
    workflow.IsBlock options job (addedLines block) := by
  refine ⟨⟨options, InputTable.ofRoot workflow.root, block.toList⟩, ?_, rfl⟩
  rw [compile_alone options hjob, h]
  rfl

theorem exists_compile_alone_iff {job : Job} (hjob : job ∈ declaredJobs workflow.root) :
    (∃ script, (workflow.alone job).compile options = .ok script) ↔
      ∃ block, blockFor options (InputTable.ofRoot workflow.root) job = .ok block := by
  rw [compile_alone options hjob]
  simp [map_eq_ok_iff]

def blockOf (workflow : Workflow) (options : Options) (job : Job) : List String :=
  match blockFor options (InputTable.ofRoot workflow.root) job with
  | .ok block => addedLines block
  | .error _ => []

theorem laidOut_of_compile_ok {other : Workflow} {table : JobTable} {script : Script}
    (htable : JobTable.ofRoot other.root = .ok table) (hne : table.isEmpty = false)
    (hinputs : InputTable.ofRoot other.root = InputTable.ofRoot workflow.root)
    (hjobs : ∀ job ∈ table.jobs, job ∈ declaredJobs workflow.root)
    (hok : other.compile options = .ok script) :
    workflow.LaidOut options table.jobs (table.jobs.map (workflow.blockOf options)) script := by
  rw [compile_eq options htable hne, hinputs, map_eq_ok_iff] at hok
  obtain ⟨blocks, hblocks, rfl⟩ := hok
  rw [mapM_eq_ok_iff] at hblocks
  have hadded : table.jobs.map (workflow.blockOf options) = blocks.map addedLines := by
    rw [← List.forall₂_eq_eq_eq, List.forall₂_map_left_iff, List.forall₂_map_right_iff]
    refine hblocks.imp fun job block hblock => ?_
    rw [blockOf, hblock]
  refine ⟨?_, ?_⟩
  · rw [List.forall₂_map_right_iff, List.forall₂_same]
    intro job hjob
    obtain ⟨block, hblock⟩ := exists_mapM_eq_ok_iff.mp ⟨blocks, mapM_eq_ok_iff.mpr hblocks⟩ job hjob
    rw [blockOf, hblock]
    exact isBlock_addedLines (hjobs job hjob) hblock
  · rw [lines_of_blocks, hadded]

end Blocks

section Table

variable {workflow : Workflow} {table : JobTable} (options : Options)
  (htable : JobTable.ofRoot workflow.root = .ok table) (hne : table.isEmpty = false)

include htable hne

theorem exists_compile_iff_blockFor :
    (∃ script, workflow.compile options = .ok script) ↔ ∀ job ∈ table.jobs, ∃ block,
      blockFor options (InputTable.ofRoot workflow.root) job = .ok block := by
  rw [← exists_mapM_eq_ok_iff, compile_eq options htable hne]
  simp [map_eq_ok_iff]

theorem exists_compile_iff :
    (∃ script, workflow.compile options = .ok script) ↔
      ∀ job ∈ table.jobs, ∃ script, (workflow.alone job).compile options = .ok script := by
  rw [exists_compile_iff_blockFor options htable hne]
  apply forall₂_congr
  intro job hjob
  rw [JobTable.jobs_of_ofRoot_ok htable] at hjob
  exact (exists_compile_alone_iff hjob).symm

theorem compile_eq_error_iff {e : CompileError} :
    workflow.compile options = .error e ↔ ∃ before job after, table.jobs = before ++ job :: after ∧
      (∀ earlier ∈ before, ∃ script, (workflow.alone earlier).compile options = .ok script) ∧
      (workflow.alone job).compile options = .error e := by
  have hdeclared := JobTable.jobs_of_ofRoot_ok htable
  rw [compile_eq options htable hne, map_eq_error_iff, mapM_eq_error_iff]
  constructor
  · rintro ⟨before, job, after, hsplit, hbefore, herror⟩
    rw [hdeclared] at hsplit
    refine ⟨before, job, after, hdeclared.trans hsplit, ?_, ?_⟩
    · intro earlier hearlier
      exact (exists_compile_alone_iff (by simp [hsplit, hearlier])).mpr (hbefore earlier hearlier)
    · rw [compile_alone options (by simp [hsplit]), map_eq_error_iff]
      exact herror
  · rintro ⟨before, job, after, hsplit, hbefore, herror⟩
    rw [hdeclared] at hsplit
    refine ⟨before, job, after, hdeclared.trans hsplit, ?_, ?_⟩
    · intro earlier hearlier
      exact (exists_compile_alone_iff (by simp [hsplit, hearlier])).mp (hbefore earlier hearlier)
    · rw [compile_alone options (by simp [hsplit]), map_eq_error_iff] at herror
      exact herror

end Table

theorem exists_compile_of_subset {workflow other : Workflow} {table otherTable : JobTable}
    {options : Options} (htable : JobTable.ofRoot workflow.root = .ok table)
    (hne : table.isEmpty = false) (hother : JobTable.ofRoot other.root = .ok otherTable)
    (hotherNe : otherTable.isEmpty = false)
    (hinputs : InputTable.ofRoot other.root = InputTable.ofRoot workflow.root)
    (hjobs : ∀ job ∈ otherTable.jobs, job ∈ table.jobs)
    (hok : ∃ script, workflow.compile options = .ok script) :
    ∃ script, other.compile options = .ok script := by
  rw [compile_eq options htable hne] at hok
  rw [compile_eq options hother hotherNe, hinputs]
  simp only [map_eq_ok_iff] at hok ⊢
  obtain ⟨script, blocks, hblocks, -⟩ := hok
  have hall := exists_mapM_eq_ok_iff.mp ⟨blocks, hblocks⟩
  obtain ⟨found, hfound⟩ := exists_mapM_eq_ok_iff.mpr fun job hjob => hall job (hjobs job hjob)
  exact ⟨_, found, hfound, rfl⟩

theorem compile_job_by_job {workflow : Workflow} {table : JobTable} (options : Options)
    (htable : JobTable.ofRoot workflow.root = .ok table) (hne : table.isEmpty = false) :
    table.jobs = declaredJobs workflow.root ∧
    (∀ job ∈ table.jobs, declaredJobs (workflow.alone job).root = [job] ∧
      InputTable.ofRoot (workflow.alone job).root = InputTable.ofRoot workflow.root) ∧
    ((∃ script, workflow.compile options = .ok script) ↔
      ∀ job ∈ table.jobs, ∃ script, (workflow.alone job).compile options = .ok script) ∧
    (∀ e, workflow.compile options = .error e ↔
      ∃ before job after, table.jobs = before ++ job :: after ∧
        (∀ earlier ∈ before, ∃ script, (workflow.alone earlier).compile options = .ok script) ∧
        (workflow.alone job).compile options = .error e) ∧
    ∀ script, workflow.compile options = .ok script →
      ∃ blocks, workflow.LaidOut options table.jobs blocks script ∧
        ∀ (other : Workflow) (otherTable : JobTable),
          JobTable.ofRoot other.root = .ok otherTable → otherTable.isEmpty = false →
          InputTable.ofRoot other.root = InputTable.ofRoot workflow.root →
          (otherTable.jobs.Perm table.jobs → ∃ otherScript otherBlocks,
            other.compile options = .ok otherScript ∧ otherBlocks.Perm blocks ∧
              workflow.LaidOut options otherTable.jobs otherBlocks otherScript) ∧
          (otherTable.jobs.Sublist table.jobs → ∃ otherScript otherBlocks,
            other.compile options = .ok otherScript ∧ otherBlocks.Sublist blocks ∧
              workflow.LaidOut options otherTable.jobs otherBlocks otherScript) := by
  have hdeclared := JobTable.jobs_of_ofRoot_ok htable
  refine ⟨hdeclared, ?_, exists_compile_iff options htable hne,
    fun e => compile_eq_error_iff options htable hne, ?_⟩
  · intro job hjob
    rw [hdeclared] at hjob
    exact ⟨declaredJobs_alone hjob, inputs_alone workflow job⟩
  intro script hok
  refine ⟨table.jobs.map (workflow.blockOf options),
    laidOut_of_compile_ok htable hne rfl (fun job hjob => hdeclared ▸ hjob) hok, ?_⟩
  intro other otherTable hother hotherNe hinputs
  have hadapt : (∀ job ∈ otherTable.jobs, job ∈ table.jobs) → ∃ otherScript,
      other.compile options = .ok otherScript ∧ workflow.LaidOut options otherTable.jobs
        (otherTable.jobs.map (workflow.blockOf options)) otherScript := by
    intro hjobs
    obtain ⟨otherScript, hotherOk⟩ :=
      exists_compile_of_subset htable hne hother hotherNe hinputs hjobs ⟨script, hok⟩
    exact ⟨otherScript, hotherOk, laidOut_of_compile_ok hother hotherNe hinputs
      (fun job hjob => hdeclared ▸ hjobs job hjob) hotherOk⟩
  constructor
  · intro hperm
    obtain ⟨otherScript, hotherOk, hlaid⟩ := hadapt fun job hjob => hperm.subset hjob
    exact ⟨otherScript, _, hotherOk, hperm.map _, hlaid⟩
  · intro hsub
    obtain ⟨otherScript, hotherOk, hlaid⟩ := hadapt fun job hjob => hsub.subset hjob
    exact ⟨otherScript, _, hotherOk, hsub.map _, hlaid⟩

section Reordered

def silent : Job := ⟨"lint", .mapping [(.string "steps", .sequence [])]⟩

def running : Job :=
  ⟨"build", .mapping [(.string "runs-on", .string "ubuntu-latest"),
    (.string "steps", .sequence [.mapping [(.string "run", .string "make $1")]])]⟩

def skipped : Job :=
  ⟨"ship", .mapping [(.string "runs-on", .string "macos"),
    (.string "steps", .sequence [.mapping [(.string "run", .string "push $IMAGE")]])]⟩

def ofJobs (jobs : List Job) : Workflow :=
  ⟨.mapping [(.string "jobs", .mapping (jobs.map fun job => (.string job.name, job.body)))], rfl⟩

theorem compile_reordered : ∃ script blocks otherScript otherBlocks,
    (ofJobs [silent, running, skipped]).compile (.forTarget .batch) = .ok script ∧
    (ofJobs [skipped, silent, running]).compile (.forTarget .batch) = .ok otherScript ∧
    (ofJobs [silent, running, skipped]).LaidOut (.forTarget .batch) [silent, running, skipped] blocks
      script ∧
    (ofJobs [silent, running, skipped]).LaidOut (.forTarget .batch) [skipped, silent, running]
      otherBlocks otherScript ∧
    otherBlocks.Perm blocks := by
  have hdeclared : declaredJobs (ofJobs [silent, running, skipped]).root =
      [silent, running, skipped] := rfl
  have hother : declaredJobs (ofJobs [skipped, silent, running]).root =
      [skipped, silent, running] := rfl
  obtain ⟨table, htable⟩ := JobTable.exists_ofRoot_ok_iff.mpr (show Distinct _ by
    rw [hdeclared, Distinct]
    decide +kernel)
  obtain ⟨otherTable, hotherTable⟩ := JobTable.exists_ofRoot_ok_iff.mpr (show Distinct _ by
    rw [hother, Distinct]
    decide +kernel)
  have hne : table.isEmpty = false := by
    rw [← Bool.not_eq_true, JobTable.isEmpty_iff_of_ofRoot_ok htable, hdeclared]
    exact List.cons_ne_nil _ _
  have hotherNe : otherTable.isEmpty = false := by
    rw [← Bool.not_eq_true, JobTable.isEmpty_iff_of_ofRoot_ok hotherTable, hother]
    exact List.cons_ne_nil _ _
  obtain ⟨script, hok⟩ := exists_of_isOk (x := (ofJobs [silent, running, skipped]).compile
    (.forTarget .batch)) (by decide +kernel)
  obtain ⟨hjobs, -, -, -, hscript⟩ := compile_job_by_job (.forTarget .batch) htable hne
  obtain ⟨blocks, hlaid, hothers⟩ := hscript script hok
  have hotherJobs := JobTable.jobs_of_ofRoot_ok hotherTable
  have hperm : otherTable.jobs.Perm table.jobs := by
    rw [hotherJobs, hother, hjobs, hdeclared]
    exact (List.Perm.swap _ _ _).trans (.cons _ (.swap _ _ _))
  obtain ⟨otherScript, otherBlocks, hotherOk, hblocks, hotherLaid⟩ :=
    (hothers (ofJobs [skipped, silent, running]) otherTable hotherTable hotherNe rfl).1 hperm
  rw [hjobs, hdeclared] at hlaid
  rw [hotherJobs, hother] at hotherLaid
  exact ⟨script, blocks, otherScript, otherBlocks, hok, hotherOk, hlaid, hotherLaid, hblocks⟩

end Reordered

end Workflow

end WorkflowScript
