import WorkflowScript.Proofs.Outcome
import WorkflowScript.Script.Compile

namespace WorkflowScript.Script

open Outcome

def stepLines (target : Target) (bindings : Bindings) (run : String) :
    Except CompileError (List String) :=
  (Fragment.transform target bindings run).map Fragment.trimBlock

theorem steps_eq (target : Target) (bindings : Bindings) (runs : List String) :
    steps target bindings runs = runs.mapM (stepLines target bindings) := by
  induction runs with
  | nil => rfl
  | cons run runs ih =>
    rw [steps, List.mapM_cons, stepLines, ih]
    cases Fragment.transform target bindings run <;> rfl

theorem sectionsFor_eq (target : Target) (inputs : InputTable) (job : Job) (runs : List String)
    (combinations : List Combination) :
    sectionsFor target inputs job runs combinations =
      combinations.mapM (sectionFor target inputs job runs) := by
  induction combinations with
  | nil => rfl
  | cons combination combinations ih => rw [sectionsFor, List.mapM_cons, ih]

def sectionTitle (job : Job) (combination : Combination) : String :=
  job.name ++ ": " ++ combination.describe

theorem sectionFor_eq (target : Target) (inputs : InputTable) (job : Job) (runs : List String)
    (combination : Combination) :
    sectionFor target inputs job runs combination =
      Runner.resolve job ⟨inputs, combination⟩ >>= fun label =>
        if Runner.isSupported label = true then
          (steps target ⟨inputs, combination⟩ runs).map fun fragments =>
            ⟨sectionTitle job combination, .steps fragments⟩
        else .ok ⟨sectionTitle job combination, .unsupported label⟩ := by
  rw [sectionFor]
  cases Runner.resolve job ⟨inputs, combination⟩ with
  | error e => rfl
  | ok label =>
    change (if Runner.isSupported label = true then _ else _) =
      if Runner.isSupported label = true then _ else _
    split
    · cases steps target ⟨inputs, combination⟩ runs <;> rfl
    · rfl

theorem sectionFor_eq_ok_iff {target : Target} {inputs : InputTable} {job : Job} {runs : List String}
    {combination : Combination} {part : Section} :
    sectionFor target inputs job runs combination = .ok part ↔
      ∃ label, Runner.resolve job ⟨inputs, combination⟩ = .ok label ∧
        ((Runner.isSupported label = true ∧ ∃ fragments,
            steps target ⟨inputs, combination⟩ runs = .ok fragments ∧
            part = ⟨sectionTitle job combination, .steps fragments⟩) ∨
          Runner.isSupported label = false ∧
            part = ⟨sectionTitle job combination, .unsupported label⟩) := by
  rw [sectionFor_eq, bind_eq_ok_iff]
  refine exists_congr fun label => and_congr_right fun _ => ?_
  cases Runner.isSupported label with
  | true => simp [map_eq_ok_iff, @eq_comm _ part]
  | false => simp [@eq_comm _ part]

def kept (options : Options) (combinations : List Combination) : List Combination :=
  if options.onceOnly then combinations.take 1 else combinations

theorem blockFor_eq (options : Options) (inputs : InputTable) (job : Job) :
    blockFor options inputs job =
      Matrix.expand job >>= fun combinations => job.runs >>= fun runs =>
        if runs.isEmpty = true then .ok none
        else (sectionsFor options.target inputs job runs (kept options combinations)).map
          fun parts => some ⟨job.name, combinations.length, parts⟩ := by
  rw [blockFor]
  cases Matrix.expand job with
  | error e => rfl
  | ok combinations =>
    cases job.runs with
    | error e => rfl
    | ok runs =>
      change (if runs.isEmpty = true then _ else _) = if runs.isEmpty = true then _ else _
      split
      · rfl
      · change (sectionsFor options.target inputs job runs (kept options combinations) >>= _) = _
        cases sectionsFor options.target inputs job runs (kept options combinations) <;> rfl

theorem blockFor_eq_ok_iff {options : Options} {inputs : InputTable} {job : Job}
    {block : Option JobBlock} :
    blockFor options inputs job = .ok block ↔ ∃ combinations runs,
      Matrix.expand job = .ok combinations ∧ job.runs = .ok runs ∧
      ((runs = [] ∧ block = none) ∨ runs ≠ [] ∧ ∃ parts,
        (kept options combinations).mapM (sectionFor options.target inputs job runs) = .ok parts ∧
        block = some ⟨job.name, combinations.length, parts⟩) := by
  rw [blockFor_eq]
  simp only [bind_eq_ok_iff]
  constructor
  · rintro ⟨combinations, hexpand, runs, hruns, h⟩
    refine ⟨combinations, runs, hexpand, hruns, ?_⟩
    cases runs with
    | nil =>
      cases h
      exact .inl ⟨rfl, rfl⟩
    | cons run runs =>
      rw [if_neg (by simp), sectionsFor_eq, map_eq_ok_iff] at h
      obtain ⟨parts, hparts, rfl⟩ := h
      exact .inr ⟨by simp, parts, hparts, rfl⟩
  · rintro ⟨combinations, runs, hexpand, hruns, ⟨rfl, rfl⟩ | ⟨hne, parts, hparts, rfl⟩⟩
    · exact ⟨combinations, hexpand, [], hruns, rfl⟩
    · refine ⟨combinations, hexpand, runs, hruns, ?_⟩
      rw [if_neg (by simpa using hne), sectionsFor_eq, hparts]
      rfl

theorem blockFor_eq_error_iff {options : Options} {inputs : InputTable} {job : Job}
    {e : CompileError} :
    blockFor options inputs job = .error e ↔ Matrix.expand job = .error e ∨
      ∃ combinations, Matrix.expand job = .ok combinations ∧ (job.runs = .error e ∨
        ∃ runs, job.runs = .ok runs ∧ runs ≠ [] ∧
          (kept options combinations).mapM (sectionFor options.target inputs job runs) = .error e) := by
  rw [blockFor_eq, bind_eq_error_iff]
  simp only [bind_eq_error_iff]
  refine or_congr_right (exists_congr fun combinations => and_congr_right fun _ =>
    or_congr_right (exists_congr fun runs => and_congr_right fun _ => ?_))
  cases runs with
  | nil => simp
  | cons run runs =>
    rw [if_neg (by simp), sectionsFor_eq, map_eq_error_iff]
    simp

end WorkflowScript.Script
