import WorkflowScript.Proofs.Document.Kind
import WorkflowScript.Proofs.Template.Bound
import WorkflowScript.Workflow.Runner

namespace WorkflowScript.Runner

open Document Outcome Placeholder

def BoundText (bindings : Bindings) (node : Node) : Prop :=
  ∃ text, node.scalarText = some text ∧ AllBound bindings text.toList

def BoundRunner (bindings : Bindings) (job : Job) : Prop :=
  ∃ node, job.runsOn = some node ∧
    (BoundText bindings node ∨
      ∃ items, node.items = some items ∧ ∀ item ∈ items, BoundText bindings item)

theorem exists_resolveLabel_iff {bindings : Bindings} {text : String} :
    (∃ label, resolveLabel bindings text = .ok label) ↔ AllBound bindings text.toList := by
  rw [← exists_resolve_iff]
  simp [resolveLabel, map_eq_ok_iff]

def labelOf (job : String) (bindings : Bindings) (entry : Node) : Except CompileError String :=
  match entry.scalarText with
  | none => .error (.structural job .runnerEntryNotScalar)
  | some text => resolveLabel bindings text

theorem resolveLabels_eq (job : String) (bindings : Bindings) (entries : List Node) :
    resolveLabels job bindings entries = entries.mapM (labelOf job bindings) := by
  induction entries with
  | nil => rfl
  | cons entry entries ih =>
    rw [resolveLabels, List.mapM_cons, labelOf]
    cases entry.scalarText with
    | none => rfl
    | some text => rw [← ih]

theorem exists_labelOf_iff {job : String} {bindings : Bindings} {entry : Node} :
    (∃ label, labelOf job bindings entry = .ok label) ↔ BoundText bindings entry := by
  rw [labelOf, BoundText]
  cases entry.scalarText with
  | none => simp
  | some text => simp [exists_resolveLabel_iff]

theorem exists_resolveLabels_iff {job : String} {bindings : Bindings} {entries : List Node} :
    (∃ labels, resolveLabels job bindings entries = .ok labels) ↔
      ∀ entry ∈ entries, BoundText bindings entry := by
  rw [resolveLabels_eq, exists_mapM_eq_ok_iff]
  simp only [exists_labelOf_iff]

theorem not_boundText_of_kind {bindings : Bindings} {node : Node} (h : node.kind ≠ .scalar) :
    ¬ BoundText bindings node := by
  rintro ⟨text, htext, -⟩
  exact h (Node.exists_scalarText_iff.mp ⟨text, htext⟩)

theorem items_eq_none_of_kind {node : Node} (h : node.kind ≠ .sequence) : node.items = none := by
  rw [← Option.not_isSome_iff_eq_none, Node.items_isSome_iff]
  exact h

theorem exists_resolve_runner_iff {bindings : Bindings} {job : Job} :
    (∃ label, resolve job bindings = .ok label) ↔ BoundRunner bindings job := by
  rw [resolve, BoundRunner]
  cases hnode : job.runsOn with
  | none => simp
  | some node =>
    simp only [Option.some.injEq, exists_eq_left']
    cases hkind : node.kind with
    | null =>
      simp [not_boundText_of_kind, items_eq_none_of_kind, hkind]
    | scalar =>
      obtain ⟨text, htext⟩ := Node.exists_scalarText_iff.mpr hkind
      simp [BoundText, htext, items_eq_none_of_kind, hkind, exists_resolveLabel_iff]
    | sequence =>
      obtain ⟨items, hitems⟩ := Node.exists_items_iff.mpr hkind
      have hscalar : ¬ BoundText bindings node := not_boundText_of_kind (by simp [hkind])
      simp [hscalar, hitems, map_eq_ok_iff, exists_resolveLabels_iff]
    | mapping =>
      simp [not_boundText_of_kind, items_eq_none_of_kind, hkind]

section Lists

variable {bindings : Bindings} {job : String} {entry : Node} {entries items : List Node}

def Labelled (bindings : Bindings) (entry : Node) (label : String) : Prop :=
  ∃ text resolved, entry.scalarText = some text ∧ Placeholder.resolve bindings text.toList = .ok resolved ∧
    label = .ofList (Text.trim resolved)

inductive Unlabelled (job : String) (bindings : Bindings) (entry : Node) : CompileError → Prop
  | notScalar (h : entry.scalarText = none) :
      Unlabelled job bindings entry (.structural job .runnerEntryNotScalar)
  | unresolved {text : String} {e : CompileError} (htext : entry.scalarText = some text)
      (he : Placeholder.resolve bindings text.toList = .error e) : Unlabelled job bindings entry e

theorem labelOf_of_text {text : String} (h : entry.scalarText = some text) :
    labelOf job bindings entry = resolveLabel bindings text := by
  rw [labelOf, h]

theorem labelOf_eq_ok_iff {label : String} :
    labelOf job bindings entry = .ok label ↔ Labelled bindings entry label := by
  rw [Labelled]
  cases htext : entry.scalarText with
  | none => simp [labelOf, htext]
  | some text =>
    rw [labelOf_of_text htext, resolveLabel, map_eq_ok_iff]
    simp [eq_comm]

theorem labelOf_eq_error_iff {e : CompileError} :
    labelOf job bindings entry = .error e ↔ Unlabelled job bindings entry e := by
  cases htext : entry.scalarText with
  | none =>
    rw [labelOf, htext]
    constructor
    · rintro ⟨⟩
      exact .notScalar htext
    · rintro (- | ⟨htext', -⟩)
      · rfl
      · cases htext.symm.trans htext'
  | some text =>
    rw [labelOf_of_text htext, resolveLabel, map_eq_error_iff]
    constructor
    · exact .unresolved htext
    · rintro (hnone | ⟨htext', he⟩)
      · cases htext.symm.trans hnone
      · cases htext.symm.trans htext'
        exact he

def visibleLabels (job : String) (bindings : Bindings) (entries : List Node) : Except CompileError (List String) :=
  (resolveLabels job bindings entries).map fun labels => labels.filter fun label => label != ""

theorem visibleLabels_cons (job : String) (bindings : Bindings) (entry : Node) (entries : List Node) :
    visibleLabels job bindings (entry :: entries) = labelOf job bindings entry >>= fun label =>
      (visibleLabels job bindings entries).map fun kept => if label = "" then kept else label :: kept := by
  rw [visibleLabels, visibleLabels, resolveLabels_eq, resolveLabels_eq, List.mapM_cons]
  cases labelOf job bindings entry with
  | error e => rfl
  | ok label =>
    cases entries.mapM (labelOf job bindings) with
    | error e => rfl
    | ok labels =>
      change Except.ok ((label :: labels).filter _) = Except.ok (if label = "" then _ else _)
      by_cases h : label = ""
      · simp [h]
      · simp [h]

inductive Padded (bindings : Bindings) : List Node → List Node → Prop
  | nil : Padded bindings [] []
  | keep {entry : Node} {entries padded : List Node} (h : Padded bindings entries padded) :
      Padded bindings (entry :: entries) (entry :: padded)
  | blank {entry : Node} {entries padded : List Node} (hblank : Labelled bindings entry "")
      (h : Padded bindings entries padded) : Padded bindings entries (entry :: padded)

theorem Padded.visibleLabels_eq {padded : List Node} (h : Padded bindings entries padded) (job : String) :
    visibleLabels job bindings padded = visibleLabels job bindings entries := by
  induction h with
  | nil => rfl
  | keep _ ih => rw [visibleLabels_cons, visibleLabels_cons, ih]
  | @blank entry entries padded hblank _ ih =>
    rw [visibleLabels_cons, labelOf_eq_ok_iff.mpr hblank, ih]
    change (visibleLabels job bindings entries).map (fun kept => if "" = "" then kept else "" :: kept) = _
    cases visibleLabels job bindings entries <;> rfl

theorem visibleLabels_eq_ok_iff {kept : List String} :
    visibleLabels job bindings entries = .ok kept ↔
      ∃ labels, List.Forall₂ (Labelled bindings) entries labels ∧ labels.filter (· != "") = kept := by
  rw [visibleLabels, resolveLabels_eq, map_eq_ok_iff]
  simp only [mapM_eq_ok_iff_of_mem fun entry _ label => labelOf_eq_ok_iff]

theorem visibleLabels_eq_error_iff {e : CompileError} :
    visibleLabels job bindings entries = .error e ↔ ∃ before entry after, entries = before ++ entry :: after ∧
      (∀ earlier ∈ before, ∃ label, Labelled bindings earlier label) ∧ Unlabelled job bindings entry e := by
  rw [visibleLabels, resolveLabels_eq, map_eq_error_iff, mapM_eq_error_iff]
  simp only [labelOf_eq_ok_iff, labelOf_eq_error_iff]

end Lists

section Support

variable {label : String} {labels : List String}

theorem isSupported_iff : isSupported label = true ↔ label.toList.map Char.toLower = supported.toList := by
  have hlower : supported.toList.map Char.toLower = supported.toList := by decide
  rw [isSupported, Text.sameIgnoringAsciiCase, beq_iff_eq, hlower]

theorem not_isSupported_of_space (h : ' ' ∈ label.toList) : ¬ isSupported label = true := by
  rw [isSupported_iff]
  intro hlabel
  have hspace : ' ' ∈ supported.toList := hlabel ▸ List.mem_map_of_mem (f := Char.toLower) h
  exact absurd hspace (by decide)

theorem isSupported_intercalate_iff :
    isSupported (" ".intercalate labels) = true ↔ ∃ label, labels = [label] ∧ isSupported label = true := by
  match labels with
  | [] => exact iff_of_false (by decide) (by simp)
  | [label] => simp
  | first :: second :: rest =>
    refine iff_of_false (not_isSupported_of_space ?_) (by simp)
    rw [String.intercalate_cons_cons, String.toList_append, String.toList_append]
    exact List.mem_append_left _ (List.mem_append_right _ (by decide))

theorem filter_visible_eq_singleton_iff : labels.filter (· != "") = [label] ↔ label ≠ "" ∧
    ∃ before after, labels = before ++ label :: after ∧ ∀ other ∈ before ++ after, other = "" := by
  rw [List.filter_eq_cons_iff]
  simp only [List.filter_eq_nil_iff, bne_iff_ne, ne_eq, not_not, List.forall_mem_append]
  constructor
  · rintro ⟨before, after, hsplit, hbefore, hlabel, hafter⟩
    exact ⟨hlabel, before, after, hsplit, hbefore, hafter⟩
  · rintro ⟨hlabel, before, after, hsplit, hbefore, hafter⟩
    exact ⟨before, after, hsplit, hbefore, hlabel, hafter⟩

end Support

section Jobs

variable {bindings : Bindings} {job : Job} {items : List Node}

theorem resolve_of_items (h : job.runsOn.bind Node.items = some items) :
    resolve job bindings = (visibleLabels job.name bindings items).map " ".intercalate := by
  obtain ⟨node, hnode, hitems⟩ := Option.bind_eq_some_iff.mp h
  have hkind : node.kind = .sequence := Node.exists_items_iff.mp ⟨items, hitems⟩
  rw [resolve, hnode, visibleLabels]
  simp only [hkind, hitems, Option.getD_some]
  cases resolveLabels job.name bindings items <;> rfl

theorem resolve_of_scalar {node : Node} {text : String} (hnode : job.runsOn = some node)
    (htext : node.scalarText = some text) : resolve job bindings = resolveLabel bindings text := by
  have hkind : node.kind = .scalar := Node.exists_scalarText_iff.mp ⟨text, htext⟩
  rw [resolve, hnode]
  simp only [hkind, htext, Option.getD_some]

theorem resolve_singleton {entry : Node} {alone : Job} (h : job.runsOn.bind Node.items = some [entry])
    (halone : alone.runsOn = some entry) (hkind : entry.kind = .scalar) :
    resolve job bindings = resolve alone bindings := by
  obtain ⟨text, htext⟩ := Node.exists_scalarText_iff.mpr hkind
  rw [resolve_of_items h, resolve_of_scalar halone htext, visibleLabels_cons, labelOf_of_text htext]
  cases resolveLabel bindings text with
  | error e => rfl
  | ok label =>
    change Except.ok (" ".intercalate (if label = "" then [] else [label])) = _
    split
    · next hblank => rw [hblank, String.intercalate_nil]
    · rw [String.intercalate_singleton]

theorem lists_like_scalars (h : job.runsOn.bind Node.items = some items) (bindings : Bindings) :
    (∀ label, resolve job bindings = .ok label ↔ ∃ labels, List.Forall₂ (Labelled bindings) items labels ∧
      label = " ".intercalate (labels.filter (· != ""))) ∧
    ((∀ entry ∈ items, BoundText bindings entry) → ∃ labels, List.Forall₂ (Labelled bindings) items labels) ∧
    (∀ labels, isSupported (" ".intercalate (labels.filter (· != ""))) = true ↔
      ∃ before label after, labels = before ++ label :: after ∧ (∀ other ∈ before ++ after, other = "") ∧
        label.toList.map Char.toLower = supported.toList) ∧
    (∀ padded : Job, padded.name = job.name → ∀ items', padded.runsOn.bind Node.items = some items' →
      Padded bindings items items' → resolve padded bindings = resolve job bindings) ∧
    (∀ entry, items = [entry] → entry.kind = .scalar → ∀ alone : Job, alone.runsOn = some entry →
      resolve job bindings = resolve alone bindings) ∧
    (∀ e, resolve job bindings = .error e ↔ ∃ before entry after, items = before ++ entry :: after ∧
      (∀ earlier ∈ before, ∃ label, Labelled bindings earlier label) ∧
      Unlabelled job.name bindings entry e) := by
  refine ⟨?_, ?_, ?_, ?_, ?_, ?_⟩
  · intro label
    rw [resolve_of_items h, map_eq_ok_iff]
    simp only [visibleLabels_eq_ok_iff]
    constructor
    · rintro ⟨kept, ⟨labels, hlabels, rfl⟩, rfl⟩
      exact ⟨labels, hlabels, rfl⟩
    · rintro ⟨labels, hlabels, rfl⟩
      exact ⟨_, ⟨labels, hlabels, rfl⟩, rfl⟩
  · intro hbound
    obtain ⟨labels, hlabels⟩ : ∃ labels, resolveLabels job.name bindings items = .ok labels :=
      exists_resolveLabels_iff.mpr hbound
    rw [resolveLabels_eq, mapM_eq_ok_iff_of_mem fun entry _ label => labelOf_eq_ok_iff] at hlabels
    exact ⟨labels, hlabels⟩
  · intro labels
    rw [isSupported_intercalate_iff]
    simp only [filter_visible_eq_singleton_iff, isSupported_iff]
    constructor
    · rintro ⟨label, ⟨-, before, after, hsplit, hblank⟩, hlabel⟩
      exact ⟨before, label, after, hsplit, hblank, hlabel⟩
    · rintro ⟨before, label, after, hsplit, hblank, hlabel⟩
      refine ⟨label, ⟨?_, before, after, hsplit, hblank⟩, hlabel⟩
      rintro rfl
      exact absurd hlabel (by decide)
  · intro padded hname items' hitems' hpadded
    rw [resolve_of_items hitems', resolve_of_items h, hname, hpadded.visibleLabels_eq]
  · rintro entry rfl hkind alone halone
    exact resolve_singleton h halone hkind
  · intro e
    rw [resolve_of_items h, map_eq_error_iff, visibleLabels_eq_error_iff]

end Jobs

def listedEntries : List Node :=
  [.string "$\x7b\x7b matrix.extra \x7d\x7d", .string " $\x7b\x7b inputs.os \x7d\x7d "]

def listed : Job := ⟨"build", .mapping [(.string "runs-on", .sequence listedEntries)]⟩

def listedBindings : Bindings :=
  ⟨.ofList [("os", .ofDefault "Ubuntu-Latest")], .ofPairs [("extra", " ")]⟩

theorem supported_of_listed : listed.runsOn.bind Node.items = some listedEntries ∧
    resolve listed listedBindings = .ok "Ubuntu-Latest" ∧ isSupported "Ubuntu-Latest" = true := by
  have hitems : listed.runsOn.bind Node.items = some listedEntries := rfl
  obtain ⟨hvalue, -, hsupported, -⟩ := lists_like_scalars hitems listedBindings
  have hextra : Labelled listedBindings (.string "$\x7b\x7b matrix.extra \x7d\x7d") "" :=
    ⟨_, [' '], rfl, by decide +kernel, by decide⟩
  have hos : Labelled listedBindings (.string " $\x7b\x7b inputs.os \x7d\x7d ") "Ubuntu-Latest" :=
    ⟨_, " Ubuntu-Latest ".toList, rfl, by decide +kernel, by decide⟩
  refine ⟨hitems, (hvalue _).mpr ⟨["", "Ubuntu-Latest"], .cons hextra (.cons hos .nil), by decide⟩, ?_⟩
  exact (hsupported ["", "Ubuntu-Latest"]).mpr ⟨[""], _, [], rfl, by simp, by decide⟩

end WorkflowScript.Runner
