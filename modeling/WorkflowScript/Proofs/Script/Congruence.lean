import WorkflowScript.Proofs.Script.Jobs
import WorkflowScript.Proofs.Script.Sections

namespace WorkflowScript

open Document Outcome Script

theorem JobTable.addAll_alike {table table' : JobTable} {jobs jobs' : List Job}
    (hnames : List.Forall₂ (fun job job' => job.name = job'.name) jobs jobs')
    (htables : (table.toList.map fun e => foldName e.1) = table'.toList.map fun e => foldName e.1) :
    Alike Eq (fun _ _ => True) (addAll table jobs) (addAll table' jobs') := by
  induction hnames generalizing table table' with
  | nil => exact .ok trivial
  | @cons job job' jobs jobs' hname _ ih =>
    have hcontains : table'.contains job.name = true ↔ table.contains job.name = true := by
      rw [NameTable.contains_iff, NameTable.contains_iff, htables]
    rw [addAll, addAll, ← hname]
    by_cases h : table.contains job.name = true
    · rw [if_pos h, if_pos (hcontains.mpr h)]
      exact .error rfl
    · have h' : ¬ table'.contains job.name = true := mt hcontains.mp h
      rw [if_neg h, if_neg h']
      apply ih
      rw [NameTable.toList_insert, NameTable.toList_insert,
        NameTable.put_of_notMem (mt NameTable.contains_iff.mpr h),
        NameTable.put_of_notMem (mt NameTable.contains_iff.mpr h'), List.map_append, List.map_append,
        htables]
      rfl

namespace Script

variable {options : Options} {inputs : InputTable} {job job' : Job}

theorem sectionFor_congr {target : Target} {runs : List String} {combination : Combination}
    (hname : job.name = job'.name)
    (hlabel : Runner.resolve job ⟨inputs, combination⟩ = Runner.resolve job' ⟨inputs, combination⟩) :
    sectionFor target inputs job runs combination = sectionFor target inputs job' runs combination := by
  rw [sectionFor_eq, sectionFor_eq, hlabel, sectionTitle, sectionTitle, hname]

theorem blockFor_congr (hname : job.name = job'.name) (hexpand : Matrix.expand job = Matrix.expand job')
    (hruns : job.runs = job'.runs)
    (hlabel : ∀ bindings, Runner.resolve job bindings = Runner.resolve job' bindings) :
    blockFor options inputs job = blockFor options inputs job' := by
  have hsections : ∀ runs, sectionFor options.target inputs job runs =
      sectionFor options.target inputs job' runs := fun runs =>
    funext fun combination => sectionFor_congr hname (hlabel _)
  simp only [blockFor_eq, sectionsFor_eq, hname, hexpand, hruns, hsections]

end Script

theorem Workflow.compile_congr {workflow workflow' : Workflow} {options : Options}
    (hinputs : InputTable.ofRoot workflow.root = InputTable.ofRoot workflow'.root)
    (hjobs : List.Forall₂ (fun job job' => job.name = job'.name ∧
        blockFor options (InputTable.ofRoot workflow.root) job =
          blockFor options (InputTable.ofRoot workflow.root) job')
      (declaredJobs workflow.root) (declaredJobs workflow'.root)) :
    workflow.compile options = workflow'.compile options := by
  have htables : Alike Eq (fun _ _ => True) (JobTable.ofRoot workflow.root)
      (JobTable.ofRoot workflow'.root) := by
    rw [JobTable.ofRoot_eq, JobTable.ofRoot_eq]
    exact JobTable.addAll_alike (hjobs.imp fun _ _ h => h.1) rfl
  generalize htable : JobTable.ofRoot workflow.root = outcome at htables
  generalize htable' : JobTable.ofRoot workflow'.root = outcome' at htables
  cases htables with
  | @error e _ he =>
    subst he
    rw [compile_eq_error_iff_cases.mpr (.inl htable), compile_eq_error_iff_cases.mpr (.inl htable')]
  | @ok table table' _ =>
    have hempty : table.isEmpty = true ↔ table'.isEmpty = true := by
      rw [JobTable.isEmpty_iff_of_ofRoot_ok htable, JobTable.isEmpty_iff_of_ofRoot_ok htable',
        ← List.length_eq_zero_iff, ← List.length_eq_zero_iff, hjobs.length_eq]
    by_cases h : table.isEmpty = true
    · rw [compile_eq_error_iff_cases.mpr (.inr ⟨table, htable, .inl ⟨h, rfl⟩⟩),
        compile_eq_error_iff_cases.mpr (.inr ⟨table', htable', .inl ⟨hempty.mp h, rfl⟩⟩)]
    · rw [compile_eq options htable (Bool.eq_false_iff.mpr h),
        compile_eq options htable' (Bool.eq_false_iff.mpr (mt hempty.mpr h)),
        JobTable.jobs_of_ofRoot_ok htable, JobTable.jobs_of_ofRoot_ok htable', ← hinputs,
        mapM_congr_forall₂ (hjobs.imp fun _ _ h => h.2)]

end WorkflowScript
