import WorkflowScript.Proofs.Line.Transform
import WorkflowScript.Proofs.Matrix.Expansion
import WorkflowScript.Proofs.Script.Jobs
import WorkflowScript.Proofs.Script.Sections
import WorkflowScript.Proofs.Workflow.Runner
import WorkflowScript.Proofs.Workflow.Steps

namespace WorkflowScript

open Document Outcome

section Line

def LineSound (visible : List Char → List Char) (bindings : Bindings) (raw : List Char) : Prop :=
  Line.isElided (Line.stripComment raw) = false →
    Placeholder.AllBound bindings (visible raw) ∧
      Line.Numbered (Line.stripSummary (Placeholder.substitute bindings (visible raw)))

variable {target : Target} {bindings : Bindings}

theorem exists_transformLines_iff {continuing : Line.Continuing} {lines : List (List Char)} :
    (∃ out, Fragment.transformLines target bindings continuing lines = .ok out) ↔
      ∀ line ∈ lines, LineSound Line.stripComment bindings line := by
  induction lines generalizing continuing with
  | nil => simp [Fragment.transformLines]
  | cons line lines ih =>
    rw [List.forall_mem_cons, LineSound, ← @Line.exists_transform_iff target bindings continuing]
    rw [Fragment.transformLines]
    constructor
    · rintro ⟨out, hout⟩
      obtain ⟨⟨emitted, after⟩, hline, hrest⟩ := bind_eq_ok_iff.mp hout
      obtain ⟨rest, hlines, -⟩ := bind_eq_ok_iff.mp hrest
      exact ⟨⟨_, hline⟩, ih.mp ⟨rest, hlines⟩⟩
    · rintro ⟨⟨⟨emitted, after⟩, hline⟩, hlines⟩
      obtain ⟨rest, hrest⟩ := (@ih after).mpr hlines
      refine ⟨emitted.toLines ++ rest, bind_eq_ok_iff.mpr ⟨_, hline, ?_⟩⟩
      exact bind_eq_ok_iff.mpr ⟨rest, hrest, rfl⟩

theorem exists_steps_iff {runs : List String} :
    (∃ fragments, Script.steps target bindings runs = .ok fragments) ↔
      ∀ run ∈ runs, ∀ line ∈ Fragment.physicalLines run.toList,
        LineSound Line.stripComment bindings line := by
  rw [Script.steps_eq, exists_mapM_eq_ok_iff]
  apply forall₂_congr
  intro run _
  rw [← @exists_transformLines_iff target bindings false]
  simp [Script.stepLines, map_eq_ok_iff, Fragment.transform]

end Line

section Section

structure SectionSound (visible : List Char → List Char) (bindings : Bindings) (job : Job) : Prop where
  runner : Runner.BoundRunner bindings job
  lines : ∀ label, Runner.resolve job bindings = .ok label → Runner.isSupported label = true →
    ∀ run ∈ job.runTexts, ∀ line ∈ Fragment.physicalLines run.toList, LineSound visible bindings line

theorem exists_sectionFor_iff {target : Target} {inputs : InputTable} {job : Job}
    {combination : Combination} :
    (∃ part, Script.sectionFor target inputs job job.runTexts combination = .ok part) ↔
      SectionSound Line.stripComment ⟨inputs, combination⟩ job := by
  simp only [Script.sectionFor_eq_ok_iff]
  constructor
  · rintro ⟨part, label, hlabel, hbody⟩
    refine ⟨Runner.exists_resolve_runner_iff.mp ⟨label, hlabel⟩, ?_⟩
    intro other hother hsupported
    rw [hlabel] at hother
    cases hother
    rcases hbody with ⟨-, fragments, hfragments, -⟩ | ⟨hunsupported, -⟩
    · exact exists_steps_iff.mp ⟨fragments, hfragments⟩
    · rw [hunsupported] at hsupported
      cases hsupported
  · rintro ⟨hrunner, hlines⟩
    obtain ⟨label, hlabel⟩ := Runner.exists_resolve_runner_iff.mpr hrunner
    cases hsupported : Runner.isSupported label with
    | true =>
      obtain ⟨fragments, hfragments⟩ :=
        (@exists_steps_iff target _ _).mpr (hlines label hlabel hsupported)
      exact ⟨_, label, hlabel, .inl ⟨hsupported, fragments, hfragments, rfl⟩⟩
    | false => exact ⟨_, label, hlabel, .inr ⟨hsupported, rfl⟩⟩

end Section

section Job

def Retained (options : Script.Options) (job : Job) (combination : Combination) : Prop :=
  ∃ combinations, Matrix.expand job = .ok combinations ∧
    combination ∈ if options.onceOnly then combinations.take 1 else combinations

structure JobSound (visible : List Char → List Char) (options : Script.Options) (inputs : InputTable)
    (job : Job) : Prop where
  axes : ∀ node entries, job.matrix = some node → node.entries = some entries →
    ∀ entry ∈ entries, Matrix.IsAxis entry.2
  shells : ∀ items, job.steps = some items → ∀ item ∈ items, ¬ AsksForShell item
  sections : job.runTexts ≠ [] → ∀ combination, Retained options job combination →
    SectionSound visible ⟨inputs, combination⟩ job

theorem exists_blockFor_iff {options : Script.Options} {inputs : InputTable} {job : Job} :
    (∃ block, Script.blockFor options inputs job = .ok block) ↔
      JobSound Line.stripComment options inputs job := by
  simp only [Script.blockFor_eq_ok_iff]
  constructor
  · rintro ⟨block, combinations, runs, hexpand, hruns, hsections⟩
    obtain ⟨hshells, rfl⟩ := Job.runs_eq_ok_iff.mp hruns
    refine ⟨Matrix.exists_expand_iff.mp ⟨combinations, hexpand⟩, hshells, ?_⟩
    rintro hne combination ⟨found, hfound, hmem⟩
    rw [hexpand] at hfound
    cases hfound
    obtain ⟨-, parts, hparts, -⟩ := hsections.resolve_left fun h => hne h.1
    exact exists_sectionFor_iff.mp (exists_mapM_eq_ok_iff.mp ⟨parts, hparts⟩ combination hmem)
  · rintro ⟨haxes, hshells, hsections⟩
    obtain ⟨combinations, hexpand⟩ := Matrix.exists_expand_iff.mpr haxes
    have hruns : job.runs = .ok job.runTexts := Job.runs_eq_ok_iff.mpr ⟨hshells, rfl⟩
    by_cases hempty : job.runTexts = []
    · exact ⟨none, combinations, job.runTexts, hexpand, hruns, .inl ⟨hempty, rfl⟩⟩
    · obtain ⟨parts, hparts⟩ := exists_mapM_eq_ok_iff.mpr fun combination hmem =>
        (@exists_sectionFor_iff options.target inputs job combination).mpr
          (hsections hempty combination ⟨combinations, hexpand, hmem⟩)
      exact ⟨_, combinations, job.runTexts, hexpand, hruns, .inr ⟨hempty, parts, hparts, rfl⟩⟩

end Job

section Document

structure Workflow.Compilable (visible : List Char → List Char) (workflow : Workflow)
    (options : Script.Options) : Prop where
  declared : declaredJobs workflow.root ≠ []
  distinct : Distinct (declaredJobs workflow.root)
  jobs : ∀ job ∈ declaredJobs workflow.root,
    JobSound visible options (InputTable.ofRoot workflow.root) job

theorem Workflow.exists_compile_iff_compilable (workflow : Workflow) (options : Script.Options) :
    (∃ script, workflow.compile options = .ok script) ↔
      workflow.Compilable Line.stripComment options := by
  constructor
  · rintro ⟨script, hscript⟩
    obtain ⟨table, htable, hne⟩ := Workflow.exists_table_of_compile_ok hscript
    have hjobs := JobTable.jobs_of_ofRoot_ok htable
    have hempty := JobTable.isEmpty_iff_of_ofRoot_ok htable
    have hblocks := (exists_compile_iff_blockFor options htable hne).mp ⟨script, hscript⟩
    refine ⟨?_, JobTable.exists_ofRoot_ok_iff.mp ⟨table, htable⟩, ?_⟩
    · intro hnone
      rw [hempty.mpr hnone] at hne
      cases hne
    · intro job hjob
      exact exists_blockFor_iff.mp (hblocks job (hjobs ▸ hjob))
  · rintro ⟨hdeclared, hdistinct, hsound⟩
    obtain ⟨table, htable⟩ := JobTable.exists_ofRoot_ok_iff.mpr hdistinct
    have hjobs := JobTable.jobs_of_ofRoot_ok htable
    have hempty := JobTable.isEmpty_iff_of_ofRoot_ok htable
    have hne : table.isEmpty = false := Bool.eq_false_iff.mpr (mt hempty.mp hdeclared)
    rw [exists_compile_iff_blockFor options htable hne, hjobs]
    intro job hjob
    exact exists_blockFor_iff.mpr (hsound job hjob)

namespace Workflow

def commentedText : String := "echo hi # $\x7b\x7b inputs.none \x7d\x7d"

def commentedJob : Job :=
  ⟨"build", .mapping [(.string "runs-on", .string "ubuntu-latest"),
    (.string "steps", .sequence [.mapping [(.string "run", .string commentedText)]])]⟩

theorem compile_commented :
    (∃ script, (ofJobs [commentedJob]).compile (.forTarget .shell) = .ok script) ∧
      ¬ (ofJobs [commentedJob]).Compilable id (.forTarget .shell) := by
  refine ⟨exists_of_isOk (by decide +kernel), ?_⟩
  rintro ⟨-, -, hsound⟩
  have hjob := hsound commentedJob (List.mem_singleton.mpr rfl)
  have hruns : commentedJob.runTexts = [commentedText] := rfl
  have hexpand : Matrix.expand commentedJob = .ok [.none] := rfl
  have hsection := hjob.sections (by simp [hruns]) .none ⟨[.none], hexpand, List.mem_singleton.mpr rfl⟩
  have hlines := hsection.lines "ubuntu-latest" (by decide +kernel) (by decide +kernel)
  obtain ⟨hbound, -⟩ := hlines commentedText (by simp [hruns]) commentedText.toList
    (by decide +kernel) (by decide +kernel)
  obtain ⟨text, htext⟩ := Placeholder.exists_resolve_iff.mpr hbound
  have herror : (Placeholder.resolve
      ⟨InputTable.ofRoot (ofJobs [commentedJob]).root, .none⟩ commentedText.toList).isOk = false := by
    decide +kernel
  rw [show commentedText.toList = id commentedText.toList from rfl, htext] at herror
  cases herror

end Workflow

end Document

end WorkflowScript
