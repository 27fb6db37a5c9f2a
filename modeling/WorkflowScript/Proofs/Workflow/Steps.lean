import WorkflowScript.Proofs.Document.Kind
import WorkflowScript.Proofs.Outcome
import WorkflowScript.Workflow.Step

namespace WorkflowScript

open Document Outcome

def AsksForShell (item : Node) : Prop :=
  item.kind = .mapping ∧ ∃ shell, item.child "shell" = some shell ∧ shell.kind ≠ .null

def runText (item : Node) : Option String := (item.child "run").bind Node.scalarText

def Job.runTexts (job : Job) : List String := (job.steps.getD []).filterMap runText

inductive Called (item : Node) (place : Nat) : String → Prop
  | named {name : String} (h : (item.child "name").bind Node.scalarText = some name) :
      Called item place name
  | numbered (h : (item.child "name").bind Node.scalarText = none) :
      Called item place ("#" ++ toString place)

theorem exists_called (item : Node) (place : Nat) : ∃ label, Called item place label := by
  cases h : (item.child "name").bind Node.scalarText with
  | some name => exact ⟨name, .named h⟩
  | none => exact ⟨_, .numbered h⟩

theorem Called.unique {item : Node} {place : Nat} {label label' : String} (h : Called item place label)
    (h' : Called item place label') : label = label' := by
  cases h with
  | named h =>
    cases h' with
    | named h' => exact Option.some.inj (h.symm.trans h')
    | numbered h' => cases h.symm.trans h'
  | numbered h =>
    cases h' with
    | named h' => cases h.symm.trans h'
    | numbered => rfl

def FirstShell (items : List Node) (label : String) : Prop :=
  ∃ before item after, items = before ++ item :: after ∧ (∀ earlier ∈ before, ¬ AsksForShell earlier) ∧
    AsksForShell item ∧ Called item (before.length + 1) label

namespace Step

theorem hasOwnShell_iff {item : Node} {step : Step} (h : ofNode? item = some step) :
    step.hasOwnShell = true ↔ AsksForShell item := by
  rw [ofNode?] at h
  split at h
  · next hsome =>
    cases h
    have hkind : item.kind = .mapping := (Node.entries_isSome_iff item).mp hsome
    cases hchild : item.child "shell" with
    | none => simp [hasOwnShell, AsksForShell, hchild]
    | some shell => simp [hasOwnShell, AsksForShell, hkind, hchild, Node.isNull]
  · cases h

theorem run_eq {item : Node} {step : Step} (h : ofNode? item = some step) :
    step.run = runText item := by
  rw [ofNode?] at h
  split at h
  · cases h
    rfl
  · cases h

theorem of_ofNode?_eq_none {item : Node} (h : ofNode? item = none) :
    ¬ AsksForShell item ∧ runText item = none := by
  rw [ofNode?] at h
  split at h
  · cases h
  · next hnone =>
    refine ⟨fun hshell => hnone ((Node.entries_isSome_iff item).mpr hshell.1), ?_⟩
    have hentries : item.entries = none := Option.not_isSome_iff_eq_none.mp hnone
    rw [runText, Node.child_of_entries_eq_none hentries]
    rfl

theorem exists_ofNode?_of_shell {item : Node} (h : AsksForShell item) : ∃ step, ofNode? item = some step := by
  have hentries : item.entries.isSome = true := (Node.entries_isSome_iff item).mpr h.1
  exact ⟨_, if_pos hentries⟩

theorem called_label {item : Node} {step : Step} (h : ofNode? item = some step) (place : Nat) :
    Called item place (step.label place) := by
  rw [ofNode?] at h
  split at h
  · cases h
    rw [label]
    cases hname : (item.child "name").bind Node.scalarText with
    | some name => exact .named hname
    | none => exact .numbered hname
  · cases h

section Run

variable {job : String} {place : Nat} {item : Node} {items : List Node}

theorem runsFrom_cons_of_shell {label : String} (h : AsksForShell item) (hlabel : Called item place label) :
    runsFrom job place (item :: items) = .error (.unsupportedShell job label) := by
  obtain ⟨step, hstep⟩ := exists_ofNode?_of_shell h
  rw [runsFrom, hstep, hlabel.unique (called_label hstep place)]
  exact if_pos ((hasOwnShell_iff hstep).mpr h)

theorem runsFrom_cons_of_not_shell (h : ¬ AsksForShell item) :
    runsFrom job place (item :: items) =
      (runsFrom job (place + 1) items).map fun runs => (runText item).toList ++ runs := by
  rw [runsFrom]
  cases hstep : ofNode? item with
  | none =>
    rw [(of_ofNode?_eq_none hstep).2]
    cases runsFrom job (place + 1) items <;> rfl
  | some step =>
    rw [← run_eq hstep]
    exact if_neg fun hown => h ((hasOwnShell_iff hstep).mp hown)

theorem filterMap_runText_cons (item : Node) (items : List Node) :
    (item :: items).filterMap runText = (runText item).toList ++ items.filterMap runText := by
  rw [List.filterMap_cons]
  cases runText item <;> rfl

theorem runsFrom_eq_ok_iff {runs : List String} :
    runsFrom job place items = .ok runs ↔
      (∀ item ∈ items, ¬ AsksForShell item) ∧ runs = items.filterMap runText := by
  induction items generalizing place runs with
  | nil => simp [runsFrom, eq_comm]
  | cons item items ih =>
    rw [List.forall_mem_cons, filterMap_runText_cons]
    by_cases hshell : AsksForShell item
    · obtain ⟨label, hlabel⟩ := exists_called item place
      simp [runsFrom_cons_of_shell hshell hlabel, hshell]
    · rw [runsFrom_cons_of_not_shell hshell, map_eq_ok_iff]
      constructor
      · rintro ⟨rest, hrest, rfl⟩
        obtain ⟨hitems, rfl⟩ := ih.mp hrest
        exact ⟨⟨hshell, hitems⟩, rfl⟩
      · rintro ⟨⟨-, hitems⟩, rfl⟩
        exact ⟨_, ih.mpr ⟨hitems, rfl⟩, rfl⟩

theorem runsFrom_eq_error_iff {e : CompileError} :
    runsFrom job place items = .error e ↔ ∃ before item after label, items = before ++ item :: after ∧
      (∀ earlier ∈ before, ¬ AsksForShell earlier) ∧ AsksForShell item ∧
      Called item (place + before.length) label ∧ e = .unsupportedShell job label := by
  induction items generalizing place with
  | nil => simp [runsFrom]
  | cons item items ih =>
    by_cases hshell : AsksForShell item
    · constructor
      · intro h
        obtain ⟨label, hlabel⟩ := exists_called item place
        rw [runsFrom_cons_of_shell hshell hlabel] at h
        cases h
        exact ⟨[], item, items, label, rfl, List.forall_mem_nil _, hshell, hlabel, rfl⟩
      · rintro ⟨before, first, after, label, hsplit, hbefore, -, hlabel, rfl⟩
        cases before with
        | nil =>
          cases hsplit
          exact runsFrom_cons_of_shell hshell hlabel
        | cons earlier before =>
          cases hsplit
          exact absurd hshell (hbefore _ List.mem_cons_self)
    · rw [runsFrom_cons_of_not_shell hshell, map_eq_error_iff, ih]
      constructor
      · rintro ⟨before, first, after, label, rfl, hbefore, hfirst, hlabel, rfl⟩
        rw [Nat.add_right_comm] at hlabel
        exact ⟨item :: before, first, after, label, rfl, List.forall_mem_cons.mpr ⟨hshell, hbefore⟩, hfirst,
          hlabel, rfl⟩
      · rintro ⟨before, first, after, label, hsplit, hbefore, hfirst, hlabel, rfl⟩
        cases before with
        | nil =>
          cases hsplit
          exact absurd hfirst hshell
        | cons earlier before =>
          cases hsplit
          rw [List.length_cons, ← Nat.add_assoc, Nat.add_right_comm] at hlabel
          exact ⟨before, first, after, label, rfl, (List.forall_mem_cons.mp hbefore).2, hfirst, hlabel, rfl⟩

end Run

end Step

theorem Job.runs_eq_ok_iff {job : Job} {runs : List String} :
    job.runs = .ok runs ↔
      (∀ items, job.steps = some items → ∀ item ∈ items, ¬ AsksForShell item) ∧
        runs = job.runTexts := by
  rw [Job.runs, Job.runTexts]
  cases job.steps with
  | none => simp [eq_comm]
  | some items => simp [Step.runsFrom_eq_ok_iff]

theorem Job.runs_eq_error_iff {job : Job} {e : CompileError} :
    job.runs = .error e ↔ ∃ items label, job.steps = some items ∧ FirstShell items label ∧
      e = .unsupportedShell job.name label := by
  rw [Job.runs]
  cases job.steps with
  | none => simp
  | some items =>
    simp only [Step.runsFrom_eq_error_iff, FirstShell, Nat.add_comm 1]
    constructor
    · rintro ⟨before, item, after, label, hsplit, hbefore, hitem, hlabel, rfl⟩
      exact ⟨items, label, rfl, ⟨before, item, after, hsplit, hbefore, hitem, hlabel⟩, rfl⟩
    · rintro ⟨_, label, ⟨⟩, ⟨before, item, after, hsplit, hbefore, hitem, hlabel⟩, rfl⟩
      exact ⟨before, item, after, label, hsplit, hbefore, hitem, hlabel, rfl⟩

theorem Job.steps_eq_none_iff {job : Job} :
    job.steps = none ↔ ∀ steps, job.body.child "steps" = some steps → steps.kind ≠ .sequence := by
  rw [Job.steps, Option.bind_eq_none_iff]
  refine forall₂_congr fun steps _ => ?_
  rw [← Option.not_isSome_iff_eq_none, Node.items_isSome_iff]

theorem Job.runs_unless_shell (job : Job) :
    (∀ e, job.runs = .error e ↔ ∃ items label, job.steps = some items ∧ FirstShell items label ∧
      e = .unsupportedShell job.name label) ∧
    ((∃ e, job.runs = .error e) ↔ ∃ items, job.steps = some items ∧ ∃ item ∈ items, AsksForShell item) ∧
    (∀ items, job.steps = some items → (∀ item ∈ items, ¬ AsksForShell item) →
      job.runs = .ok (items.filterMap runText)) ∧
    ((∀ steps, job.body.child "steps" = some steps → steps.kind ≠ .sequence) → job.runs = .ok []) := by
  refine ⟨fun e => runs_eq_error_iff, ?_, ?_, ?_⟩
  · have hfails : (∃ e, job.runs = .error e) ↔ ¬ ∃ runs, job.runs = .ok runs := by
      cases job.runs <;> simp
    rw [hfails]
    simp only [runs_eq_ok_iff, exists_and_left, exists_eq, and_true, not_forall, not_not, exists_prop]
  · intro items hitems hshell
    refine runs_eq_ok_iff.mpr ⟨fun items' hitems' => ?_, by rw [runTexts, hitems]; rfl⟩
    cases hitems.symm.trans hitems'
    exact hshell
  · intro h
    rw [runs, steps_eq_none_iff.mpr h]

def shelled : Job :=
  ⟨"build", .mapping [(.string "steps", .sequence [.mapping [(.string "uses", .string "checkout")], .string "make",
    .mapping [(.string "run", .string "make all"), (.string "shell", .null)],
    .mapping [(.string "name", .null), (.string "shell", .sequence [.string "bash"])],
    .mapping [(.string "name", .string "last"), (.string "shell", .string "sh")]])]⟩

theorem refused_of_shelled : shelled.runs = .error (.unsupportedShell "build" "#4") := by
  obtain ⟨herror, -⟩ := shelled.runs_unless_shell
  refine (herror _).mpr ⟨_, _, rfl, ⟨[_, _, _], _, [_], rfl, ?_, ⟨rfl, _, rfl, nofun⟩, .numbered rfl⟩, rfl⟩
  refine List.forall_mem_cons.mpr ⟨?_, List.forall_mem_cons.mpr ⟨?_, List.forall_mem_singleton.mpr ?_⟩⟩
  · rintro ⟨-, shell, hshell, -⟩
    cases hshell
  · rintro ⟨hkind, -⟩
    cases hkind
  · rintro ⟨-, shell, hshell, hnull⟩
    cases hshell
    exact hnull rfl

end WorkflowScript
