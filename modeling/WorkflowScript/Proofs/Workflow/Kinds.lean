import WorkflowScript.Proofs.Matrix.Expansion
import WorkflowScript.Proofs.Workflow.Inputs
import WorkflowScript.Proofs.Workflow.JobTable
import WorkflowScript.Proofs.Workflow.Runner

namespace WorkflowScript

open Document

structure Document.Node.Answers (node : Node) (kind : Kind) : Prop where
  kind_eq : node.kind = kind
  text : node.scalarText.isSome = true ↔ kind = .scalar
  items : node.items.isSome = true ↔ kind = .sequence
  entries : node.entries.isSome = true ↔ kind = .mapping

theorem Document.Node.answers_kind (node : Node) : node.Answers node.kind :=
  ⟨rfl, scalarText_isSome_iff node, items_isSome_iff node, entries_isSome_iff node⟩

theorem Document.Node.existsUnique_answers (node : Node) : ∃! kind, node.Answers kind :=
  ⟨node.kind, node.answers_kind, fun _ h => h.kind_eq.symm⟩

section Declarations

theorem declared?_isSome_iff (entry : String × Node) :
    (JobTable.declared? entry).isSome = true ↔ (InputTable.declared? entry).isSome = true := by
  simp [JobTable.declared?, InputTable.declared?, Node.entries_isSome_iff]

theorem map_name_filterMap_declared? (entries : List (String × Node)) :
    (entries.filterMap JobTable.declared?).map Job.name =
      (entries.filterMap InputTable.declared?).map Prod.fst := by
  induction entries with
  | nil => rfl
  | cons entry entries ih =>
    by_cases h : entry.2.kind = .mapping
    · rw [List.filterMap_cons_some (JobTable.declared?_eq_some_iff.mpr ⟨h, rfl⟩),
        List.filterMap_cons_some (InputTable.declared?_eq_some_iff.mpr ⟨h, rfl⟩), List.map_cons, List.map_cons, ih]
    · have hinput : InputTable.declared? entry = none := by
        rw [InputTable.declared?, if_neg (mt (Node.entries_isSome_iff entry.2).mp h)]
      rw [List.filterMap_cons_none (JobTable.declared?_eq_none_iff.mpr h), List.filterMap_cons_none hinput, ih]

end Declarations

section Readers

variable {job : Job} {node : Node}

theorem exists_expand_eq (h : job.matrix = some node) : ∃ entries, node.entries = some entries ∧
    Matrix.expand job = (Matrix.axes job.name entries).map fun axes => (Matrix.combine axes ⟨.none, []⟩).found := by
  obtain ⟨entries, hentries⟩ := Matrix.exists_entries_of_matrix h
  exact ⟨entries, hentries, Matrix.expand_eq h hentries⟩

theorem kind_ne_null_of_runsOn (h : job.runsOn = some node) : node.kind ≠ .null := by
  have hnull := (Option.filter_eq_some_iff.mp h).2
  simpa [Node.isNull] using hnull

theorem exists_resolve_eq (h : job.runsOn = some node) (bindings : Bindings) :
    (∃ text, node.kind = .scalar ∧ node.scalarText = some text ∧
      Runner.resolve job bindings = Runner.resolveLabel bindings text) ∨
    (∃ items, node.kind = .sequence ∧ node.items = some items ∧
      Runner.resolve job bindings = (Runner.visibleLabels job.name bindings items).map " ".intercalate) ∨
    (node.kind = .mapping ∧ Runner.resolve job bindings = .error (.structural job.name .runnerInvalid)) := by
  cases hkind : node.kind with
  | null => exact absurd hkind (kind_ne_null_of_runsOn h)
  | scalar =>
    obtain ⟨text, htext⟩ := Node.exists_scalarText_iff.mpr hkind
    exact .inl ⟨text, rfl, htext, Runner.resolve_of_scalar h htext⟩
  | sequence =>
    obtain ⟨items, hitems⟩ := Node.exists_items_iff.mpr hkind
    have hbind : job.runsOn.bind Node.items = some items := by rw [h, Option.bind_some, hitems]
    exact .inr (.inl ⟨items, rfl, hitems, Runner.resolve_of_items hbind⟩)
  | mapping =>
    refine .inr (.inr ⟨rfl, ?_⟩)
    rw [Runner.resolve, h]
    simp only [hkind]

end Readers

theorem answers_by_kind :
    (∀ node : Node, ∃! kind, node.Answers kind) ∧
    (∀ entry, (JobTable.declared? entry).isSome = true ↔ (InputTable.declared? entry).isSome = true) ∧
    (∀ entries : List (String × Node), (entries.filterMap JobTable.declared?).map Job.name =
      (entries.filterMap InputTable.declared?).map Prod.fst) ∧
    (∀ job node, job.matrix = some node → ∃ entries, node.entries = some entries ∧
      Matrix.expand job =
        (Matrix.axes job.name entries).map fun axes => (Matrix.combine axes ⟨.none, []⟩).found) ∧
    ∀ job node bindings, job.runsOn = some node →
      (∃ text, node.kind = .scalar ∧ node.scalarText = some text ∧
        Runner.resolve job bindings = Runner.resolveLabel bindings text) ∨
      (∃ items, node.kind = .sequence ∧ node.items = some items ∧
        Runner.resolve job bindings = (Runner.visibleLabels job.name bindings items).map " ".intercalate) ∨
      (node.kind = .mapping ∧
        Runner.resolve job bindings = .error (.structural job.name .runnerInvalid)) :=
  ⟨Node.existsUnique_answers, declared?_isSome_iff, map_name_filterMap_declared?, fun _ _ => exists_expand_eq,
    fun _ _ bindings h => exists_resolve_eq h bindings⟩

def layeredMatrix : Node :=
  .tagged "!outer" (.tagged "!inner" (.mapping [(.string "os", .sequence [.tagged "!name" (.string "linux")])]))

def layeredRunner : Node :=
  .tagged "!outer" (.tagged "!inner" (.sequence [.tagged "!label" (.string " ubuntu-latest ")]))

def layered : Job :=
  ⟨"build", .tagged "!job" (.mapping [(.string "runs-on", layeredRunner),
    (.string "strategy", .mapping [(.string "matrix", layeredMatrix)])])⟩

theorem answers_of_layered : layeredMatrix.Answers .mapping ∧
    (∃ entries, layeredMatrix.entries = some entries ∧ Matrix.expand layered =
      (Matrix.axes "build" entries).map fun axes => (Matrix.combine axes ⟨.none, []⟩).found) ∧
    Runner.resolve layered ⟨.empty, .none⟩ = .ok "ubuntu-latest" := by
  obtain ⟨hnode, -, -, hmatrix, hrunner⟩ := answers_by_kind
  obtain ⟨kind, hkind, -⟩ := hnode layeredMatrix
  obtain rfl : .mapping = kind := hkind.kind_eq
  refine ⟨hkind, hmatrix layered layeredMatrix rfl, ?_⟩
  rcases hrunner layered layeredRunner ⟨.empty, .none⟩ rfl with
    ⟨_, hscalar, -⟩ | ⟨items, -, hitems, hresolve⟩ | ⟨hmapping, -⟩
  · cases hscalar
  · cases hitems
    exact hresolve.trans (by decide +kernel)
  · cases hmapping

end WorkflowScript
