import WorkflowScript.Proofs.Script.Congruence
import WorkflowScript.Proofs.Workflow.RunTexts

namespace WorkflowScript

open Outcome Script

def Job.Unsupported (options : Options) (inputs : InputTable) (job : Job) : Prop :=
  ∀ combinations, Matrix.expand job = .ok combinations → ∀ combination ∈ kept options combinations,
    ∃ label, Runner.resolve job ⟨inputs, combination⟩ = .ok label ∧ Runner.isSupported label = false

namespace Script

def IsSkipped (inputs : InputTable) (job : Job) (combination : Combination) (part : Section) : Prop :=
  ∃ label, Runner.resolve job ⟨inputs, combination⟩ = .ok label ∧
    part.lines = Section.banner (sectionTitle job combination) ++ ["echo Unsupported runner: " ++ label]

variable {options : Options} {inputs : InputTable} {job : Job}

theorem sectionFor_of_unsupported (target : Target) (runs : List String) {combination : Combination}
    {label : String} (hlabel : Runner.resolve job ⟨inputs, combination⟩ = .ok label)
    (hunsupported : Runner.isSupported label = false) :
    sectionFor target inputs job runs combination =
      .ok ⟨sectionTitle job combination, .unsupported label⟩ :=
  sectionFor_eq_ok_iff.mpr ⟨label, hlabel, .inr ⟨hunsupported, rfl⟩⟩

theorem mapM_sectionFor_withRuns {combinations : List Combination} (h : job.Unsupported options inputs)
    (hexpand : Matrix.expand job = .ok combinations) (texts : Nat → String) (runs runs' : List String) :
    (kept options combinations).mapM (sectionFor options.target inputs job runs) =
      (kept options combinations).mapM
        (sectionFor options.target inputs (job.withRuns texts) runs') := by
  refine mapM_congr_forall₂ (List.forall₂_same.mpr fun combination hmem => ?_)
  obtain ⟨label, hlabel, hunsupported⟩ := h combinations hexpand combination hmem
  rw [sectionFor_of_unsupported options.target runs hlabel hunsupported,
    sectionFor_of_unsupported options.target runs' ((Job.resolve_withRuns job _).trans hlabel)
      hunsupported]
  rfl

theorem blockFor_withRuns (h : job.Unsupported options inputs) (texts : Nat → String) :
    blockFor options inputs job = blockFor options inputs (job.withRuns texts) := by
  rw [blockFor_eq, blockFor_eq, Job.expand_withRuns]
  cases hexpand : Matrix.expand job with
  | error e => rfl
  | ok combinations =>
    have hsections := mapM_sectionFor_withRuns h hexpand texts
    have hruns := Job.runs_withRuns job texts
    generalize job.runs = runs at hruns
    generalize (job.withRuns texts).runs = runs' at hruns
    cases hruns with
    | @error e _ he =>
      subst he
      rfl
    | @ok runs runs' hlength =>
      have hempty : runs'.isEmpty = runs.isEmpty := by
        rw [Bool.eq_iff_iff, List.isEmpty_iff_length_eq_zero, List.isEmpty_iff_length_eq_zero, hlength]
      change (if runs.isEmpty = true then _ else _) = if runs'.isEmpty = true then _ else _
      rw [hempty, sectionsFor_eq, sectionsFor_eq, hsections runs runs']
      rfl

theorem isSkipped_of_blockFor_ok {combinations : List Combination} {block : Option JobBlock}
    (h : job.Unsupported options inputs) (hrun : job.runTexts ≠ [])
    (hexpand : Matrix.expand job = .ok combinations) (hok : blockFor options inputs job = .ok block) :
    ∃ parts, block = some ⟨job.name, combinations.length, parts⟩ ∧
      List.Forall₂ (IsSkipped inputs job) (kept options combinations) parts := by
  obtain ⟨found, runs, hfound, hruns, hsections⟩ := blockFor_eq_ok_iff.mp hok
  obtain rfl : combinations = found := Except.ok.inj (hexpand.symm.trans hfound)
  have hne : runs ≠ [] := by rwa [(Job.runs_eq_ok_iff.mp hruns).2]
  obtain ⟨-, parts, hparts, rfl⟩ := hsections.resolve_left fun hnil => hne hnil.1
  refine ⟨parts, rfl, ((List.forall₂_and_left _ _).mpr ⟨fun _ => id, mapM_eq_ok_iff.mp hparts⟩).imp ?_⟩
  rintro combination part ⟨hmem, hpart⟩
  obtain ⟨label, hlabel, hunsupported⟩ := h combinations hexpand combination hmem
  rw [sectionFor_of_unsupported _ _ hlabel hunsupported] at hpart
  cases hpart
  exact ⟨label, hlabel, rfl⟩

end Script

namespace Workflow

variable {workflow : Workflow} {options : Options} {place : Nat} {job : Job}

theorem compile_withRuns (hjob : jobAt? workflow.root place = some job)
    (h : job.Unsupported options (InputTable.ofRoot workflow.root)) (texts : Nat → String) :
    (workflow.withRuns place texts).compile options = workflow.compile options := by
  symm
  apply compile_congr (inputs_withRuns workflow place texts).symm
  apply forall₂_declaredJobs_withRuns workflow place texts (fun _ => ⟨rfl, rfl⟩)
  intro other hother
  obtain rfl : job = other := Option.some.inj (hjob.symm.trans hother)
  exact ⟨rfl, blockFor_withRuns h texts⟩

theorem exists_block_of_compile_ok {script : Script} (hscript : workflow.compile options = .ok script)
    (hjob : job ∈ declaredJobs workflow.root) :
    ∃ block, blockFor options (InputTable.ofRoot workflow.root) job = .ok block ∧
      ∀ added ∈ block, added ∈ script.blocks := by
  obtain ⟨table, blocks, htable, -, hblocks, rfl⟩ := compile_eq_ok_iff.mp hscript
  rw [← JobTable.jobs_of_ofRoot_ok htable] at hjob
  obtain ⟨block, hmem, hblock⟩ := exists_mem_of_mapM hblocks hjob
  exact ⟨block, hblock, fun added hadded =>
    List.mem_flatMap.mpr ⟨block, hmem, Option.mem_toList.mpr hadded⟩⟩

theorem unsupported_steps_unread (workflow : Workflow) (options : Options) {place : Nat} {job : Job}
    (hjob : jobAt? workflow.root place = some job) (hrun : job.runTexts ≠ [])
    (h : job.Unsupported options (InputTable.ofRoot workflow.root)) :
    (∀ texts : Nat → String,
      (workflow.withRuns place texts).compile options = workflow.compile options ∧
      ∃ changed, jobAt? (workflow.withRuns place texts).root place = some changed ∧
        changed.runTexts = (job.steps.getD []).zipIdx.filterMap fun step =>
          (runText step.1).map fun _ => texts step.2) ∧
    ∀ script, workflow.compile options = .ok script → ∃ combinations block,
      Matrix.expand job = .ok combinations ∧ block ∈ script.blocks ∧ block.job = job.name ∧
      List.Forall₂ (IsSkipped (InputTable.ofRoot workflow.root) job) (kept options combinations)
        block.sections := by
  constructor
  · intro texts
    refine ⟨compile_withRuns hjob h texts, job.withRuns texts, ?_, Job.runTexts_withRuns job⟩
    rw [jobAt?_withRuns, hjob, Option.map_some]
  · intro script hscript
    obtain ⟨block, hblock, hmem⟩ :=
      exists_block_of_compile_ok hscript (mem_declaredJobs_iff.mpr ⟨place, hjob⟩)
    obtain ⟨combinations, -, hexpand, -⟩ := blockFor_eq_ok_iff.mp hblock
    obtain ⟨parts, rfl, hparts⟩ := isSkipped_of_blockFor_ok h hrun hexpand hblock
    exact ⟨combinations, _, hexpand, hmem _ rfl, rfl, hparts⟩

section Shipped

open Document

def shipped : Job :=
  ⟨"ship", .mapping [(.string "strategy", .mapping [(.string "matrix", .mapping
      [(.string "os", .sequence [.string "macos-14", .string "windows-latest"])])]),
    (.string "runs-on", .string "$\x7b\x7b matrix.os \x7d\x7d"),
    (.string "steps", .sequence [.mapping [(.string "uses", .string "actions/checkout@v4")],
      .mapping [(.string "run", .tagged "!text" (.string "make"))]])]⟩

def shippedCombinations : List Combination :=
  [.ofPairs [("os", "macos-14")], .ofPairs [("os", "windows-latest")]]

theorem unsupported_shipped : shipped.Unsupported (.forTarget .batch) .empty := by
  intro combinations hexpand combination hmem
  obtain rfl : shippedCombinations = combinations := Except.ok.inj hexpand
  rcases List.mem_cons.mp hmem with rfl | hmem
  · exact ⟨"macos-14", by decide +kernel, by decide +kernel⟩
  · rw [List.mem_singleton.mp hmem]
    exact ⟨"windows-latest", by decide +kernel, by decide +kernel⟩

def refused : String := "echo $\x7b\x7b inputs.none \x7d\x7d $(date)\n\\"

theorem unread_of_shipped : jobAt? (ofJobs [running, shipped]).root 1 = some shipped ∧
    shipped.runTexts = ["make"] ∧ shipped.Unsupported (.forTarget .batch) .empty ∧
    ((ofJobs [running, shipped]).withRuns 1 fun _ => refused).compile (.forTarget .batch) =
      (ofJobs [running, shipped]).compile (.forTarget .batch) ∧
    (∃ changed, jobAt? ((ofJobs [running, shipped]).withRuns 1 fun _ => refused).root 1 = some changed ∧
      changed.runTexts = [refused]) ∧
    ∃ script block, (ofJobs [running, shipped]).compile (.forTarget .batch) = .ok script ∧
      block ∈ script.blocks ∧ block.job = "ship" ∧
      List.Forall₂ (IsSkipped .empty shipped) shippedCombinations block.sections := by
  have hjob : jobAt? (ofJobs [running, shipped]).root 1 = some shipped := rfl
  have hruns : shipped.runTexts = ["make"] := rfl
  obtain ⟨hunread, hsections⟩ := unsupported_steps_unread (ofJobs [running, shipped]) (.forTarget .batch)
    hjob (by simp [hruns]) unsupported_shipped
  obtain ⟨script, hscript⟩ := exists_of_isOk
    (x := (ofJobs [running, shipped]).compile (.forTarget .batch)) (by decide +kernel)
  obtain ⟨combinations, block, hexpand, hmem, hname, hskipped⟩ := hsections script hscript
  obtain rfl : shippedCombinations = combinations := Except.ok.inj hexpand
  exact ⟨hjob, hruns, unsupported_shipped, (hunread fun _ => refused).1, (hunread fun _ => refused).2,
    script, block, hscript, hmem, hname, hskipped⟩

end Shipped

end Workflow

end WorkflowScript
