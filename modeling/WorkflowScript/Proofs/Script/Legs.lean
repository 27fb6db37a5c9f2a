import WorkflowScript.Proofs.Matrix.Legs
import WorkflowScript.Proofs.Script.Jobs
import WorkflowScript.Proofs.Script.Sections

namespace WorkflowScript.Script

open Outcome

variable {options : Options} {inputs : InputTable} {job : Job} {runs : List String}
  {combinations : List Combination}

theorem resolve_leg (bindings : Bindings) (job : Job) (i : Nat) :
    Runner.resolve (job.leg i) bindings = Runner.resolve job bindings := by
  rw [Runner.resolve, Runner.resolve, Job.runsOn_leg, Job.name_leg]

theorem sectionFor_leg (target : Target) (inputs : InputTable) (job : Job) (runs : List String)
    (combination : Combination) (i : Nat) :
    sectionFor target inputs (job.leg i) runs combination =
      sectionFor target inputs job runs combination := by
  rw [sectionFor_eq, sectionFor_eq, resolve_leg, sectionTitle, sectionTitle, Job.name_leg]

section Block

variable (hall : options.onceOnly = false) (hruns : job.runs = .ok runs) (hne : runs ≠ [])

include hall hruns hne

theorem blockFor_of_expand_ok (hexpand : Matrix.expand job = .ok combinations) :
    blockFor options inputs job =
      (combinations.mapM (sectionFor options.target inputs job runs)).map fun parts =>
        some ⟨job.name, combinations.length, parts⟩ := by
  have hempty : ¬ runs.isEmpty = true := by simpa using hne
  rw [blockFor_eq, hexpand, hruns]
  change (if runs.isEmpty = true then _ else _) = _
  rw [if_neg hempty, sectionsFor_eq, kept, hall]
  rfl

theorem blockFor_leg (hdistinct : job.DistinctAxes) (hexpand : Matrix.expand job = .ok combinations)
    {i : Nat} {combination : Combination} (hi : combinations[i]? = some combination) :
    blockFor options inputs (job.leg i) =
      (sectionFor options.target inputs job runs combination).map fun part =>
        some ⟨job.name, 1, [part]⟩ := by
  rw [blockFor_of_expand_ok hall (by rw [Job.runs_leg, hruns]) hne (Job.expand_leg hdistinct hexpand hi),
    mapM_singleton, sectionFor_leg, Job.name_leg]
  cases sectionFor options.target inputs job runs combination <;> rfl

variable (hdistinct : job.DistinctAxes) (hexpand : Matrix.expand job = .ok combinations)

include hdistinct hexpand

theorem mapM_legs :
    (job.legs combinations.length).mapM (blockFor options inputs) =
      (combinations.mapM (sectionFor options.target inputs job runs)).map
        (List.map fun part => some ⟨job.name, 1, [part]⟩) := by
  apply mapM_of_forall₂
  apply (Job.forall₂_legs job combinations).imp
  rintro leg combination ⟨i, hi, rfl⟩
  exact blockFor_leg hall hruns hne hdistinct hexpand hi

theorem exists_blockFor_iff_legs :
    (∃ block, blockFor options inputs job = .ok block) ↔
      ∀ leg ∈ job.legs combinations.length, ∃ block, blockFor options inputs leg = .ok block := by
  rw [← exists_mapM_eq_ok_iff, mapM_legs hall hruns hne hdistinct hexpand,
    blockFor_of_expand_ok hall hruns hne hexpand]
  simp [map_eq_ok_iff]

theorem blockFor_eq_error_iff_legs {e : CompileError} :
    blockFor options inputs job = .error e ↔ ∃ before leg after,
      job.legs combinations.length = before ++ leg :: after ∧
      (∀ earlier ∈ before, ∃ block, blockFor options inputs earlier = .ok block) ∧
      blockFor options inputs leg = .error e := by
  rw [← mapM_eq_error_iff, mapM_legs hall hruns hne hdistinct hexpand,
    blockFor_of_expand_ok hall hruns hne hexpand, map_eq_error_iff, map_eq_error_iff]

theorem exists_parts_of_blockFor_ok {block : Option JobBlock}
    (hok : blockFor options inputs job = .ok block) :
    ∃ parts, block = some ⟨job.name, combinations.length, parts⟩ ∧
      List.Forall₂ (fun leg part => blockFor options inputs leg = .ok (some ⟨job.name, 1, [part]⟩))
        (job.legs combinations.length) parts := by
  rw [blockFor_of_expand_ok hall hruns hne hexpand, map_eq_ok_iff] at hok
  obtain ⟨parts, hparts, rfl⟩ := hok
  refine ⟨parts, rfl, ?_⟩
  have hlegs : (job.legs combinations.length).mapM (blockFor options inputs) =
      .ok (parts.map fun part => some ⟨job.name, 1, [part]⟩) := by
    rw [mapM_legs hall hruns hne hdistinct hexpand, hparts]
    rfl
  rwa [mapM_eq_ok_iff, List.forall₂_map_right_iff] at hlegs

theorem blockFor_leg_of_unsupported {i : Nat} {combination : Combination} {label : String}
    (hi : combinations[i]? = some combination)
    (hlabel : Runner.resolve job ⟨inputs, combination⟩ = .ok label)
    (hunsupported : Runner.isSupported label = false) :
    blockFor options inputs (job.leg i) =
      .ok (some ⟨job.name, 1, [⟨sectionTitle job combination, .unsupported label⟩]⟩) := by
  have hpart : sectionFor options.target inputs job runs combination =
      .ok ⟨sectionTitle job combination, .unsupported label⟩ :=
    sectionFor_eq_ok_iff.mpr ⟨label, hlabel, .inr ⟨hunsupported, rfl⟩⟩
  rw [blockFor_leg hall hruns hne hdistinct hexpand hi, hpart]
  rfl

end Block

theorem legs_independent (options : Options) (inputs : InputTable) {job : Job} {runs : List String}
    {combinations : List Combination} (hall : options.onceOnly = false)
    (hexpand : Matrix.expand job = .ok combinations) (hruns : job.runs = .ok runs) (hne : runs ≠ [])
    (hdistinct : job.DistinctAxes) :
    List.Forall₂ (fun leg combination => Matrix.expand leg = .ok [combination] ∧
        leg.name = job.name ∧ ∀ key, key ≠ "strategy" → leg.body.child key = job.body.child key)
      (job.legs combinations.length) combinations ∧
    ((∃ block, blockFor options inputs job = .ok block) ↔
      ∀ leg ∈ job.legs combinations.length, ∃ block, blockFor options inputs leg = .ok block) ∧
    (∀ e, blockFor options inputs job = .error e ↔ ∃ before leg after,
      job.legs combinations.length = before ++ leg :: after ∧
      (∀ earlier ∈ before, ∃ block, blockFor options inputs earlier = .ok block) ∧
      blockFor options inputs leg = .error e) ∧
    (∀ block, blockFor options inputs job = .ok block →
      ∃ parts, block = some ⟨job.name, combinations.length, parts⟩ ∧
        addedLines block = JobBlock.banner job.name combinations.length ++
          (parts.map Section.lines).flatten ∧
        List.Forall₂
          (fun leg part => blockFor options inputs leg = .ok (some ⟨job.name, 1, [part]⟩))
          (job.legs combinations.length) parts) ∧
    ∀ i combination label, combinations[i]? = some combination →
      Runner.resolve job ⟨inputs, combination⟩ = .ok label → Runner.isSupported label = false →
      blockFor options inputs (job.leg i) =
        .ok (some ⟨job.name, 1, [⟨sectionTitle job combination, .unsupported label⟩]⟩) ∧
      ((∃ block, blockFor options inputs job = .ok block) ↔
        ∀ j < combinations.length, j ≠ i →
          ∃ block, blockFor options inputs (job.leg j) = .ok block) := by
  have hiff : (∃ block, blockFor options inputs job = .ok block) ↔
      ∀ leg ∈ job.legs combinations.length, ∃ block, blockFor options inputs leg = .ok block :=
    exists_blockFor_iff_legs hall hruns hne hdistinct hexpand
  refine ⟨?_, hiff, fun e => blockFor_eq_error_iff_legs hall hruns hne hdistinct hexpand, ?_, ?_⟩
  · apply (Job.forall₂_legs job combinations).imp
    rintro leg combination ⟨i, hi, rfl⟩
    exact ⟨Job.expand_leg hdistinct hexpand hi, Job.name_leg job i,
      fun key hkey => Job.child_leg hkey job i⟩
  · intro block hok
    obtain ⟨parts, rfl, hparts⟩ :=
      exists_parts_of_blockFor_ok hall hruns hne hdistinct hexpand hok
    refine ⟨parts, rfl, ?_, hparts⟩
    simp [addedLines, JobBlock.lines, List.flatMap_def]
  · intro i combination label hi hlabel hunsupported
    have hleg := blockFor_leg_of_unsupported hall hruns hne hdistinct hexpand hi hlabel hunsupported
    refine ⟨hleg, ?_⟩
    rw [hiff]
    constructor
    · intro hlegs j hj _
      exact hlegs _ (List.mem_map.mpr ⟨j, List.mem_range.mpr hj, rfl⟩)
    · intro hothers leg hmem
      obtain ⟨j, hj, rfl⟩ := List.mem_map.mp hmem
      by_cases hji : j = i
      · rw [hji, hleg]
        exact ⟨_, rfl⟩
      · exact hothers j (List.mem_range.mp hj) hji

def mixedAxes : Document.Node :=
  .mapping [(.string "os", .sequence [.string "ubuntu-latest", .string "windows-latest"]),
    (.string "node", .sequence [.string "14", .string "16 lts"])]

def mixed : Job :=
  ⟨"test", .mapping [(.string "strategy", .mapping [(.string "matrix", mixedAxes)]),
    (.string "runs-on", .string "$\x7b\x7b matrix.os \x7d\x7d"),
    (.string "steps", .sequence [.mapping [(.string "run",
      .string "echo $\x7b\x7b matrix.node \x7d\x7d")]])]⟩

theorem distinctAxes_mixed : mixed.DistinctAxes := by
  rintro matrix entries hmatrix hentries
  cases hmatrix
  cases hentries
  change [foldName "os", foldName "node"].Nodup
  decide +kernel

def mixedCombinations : List Combination :=
  [.ofPairs [("os", "ubuntu-latest"), ("node", "14")],
    .ofPairs [("os", "ubuntu-latest"), ("node", "\"16 lts\"")],
    .ofPairs [("os", "windows-latest"), ("node", "14")],
    .ofPairs [("os", "windows-latest"), ("node", "\"16 lts\"")]]

theorem legs_of_mixed : mixed.DistinctAxes ∧ Matrix.expand mixed = .ok mixedCombinations ∧
    mixed.runs = .ok ["echo $\x7b\x7b matrix.node \x7d\x7d"] ∧
    (∃ parts, blockFor (.forTarget .shell) .empty mixed = .ok (some ⟨"test", 4, parts⟩) ∧
      List.Forall₂ (fun leg part => blockFor (.forTarget .shell) .empty leg =
        .ok (some ⟨"test", 1, [part]⟩)) (mixed.legs 4) parts) ∧
    blockFor (.forTarget .shell) .empty (mixed.leg 2) = .ok (some ⟨"test", 1,
      [⟨"test: os=windows-latest node=14", .unsupported "windows-latest"⟩]⟩) := by
  have hexpand : Matrix.expand mixed = .ok mixedCombinations := rfl
  have hruns : mixed.runs = .ok ["echo $\x7b\x7b matrix.node \x7d\x7d"] := rfl
  obtain ⟨-, -, -, hblock, hskipped⟩ := legs_independent (.forTarget .shell) .empty rfl hexpand hruns
    (by simp) distinctAxes_mixed
  refine ⟨distinctAxes_mixed, hexpand, hruns, ?_, ?_⟩
  · obtain ⟨block, hok⟩ := exists_of_isOk (x := blockFor (.forTarget .shell) .empty mixed)
      (by decide +kernel)
    obtain ⟨parts, rfl, -, hparts⟩ := hblock block hok
    exact ⟨parts, hok, hparts⟩
  · exact (hskipped 2 _ "windows-latest" rfl (by decide +kernel) (by decide +kernel)).1

end WorkflowScript.Script
