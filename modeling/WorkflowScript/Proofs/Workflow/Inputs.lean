import WorkflowScript.Proofs.NameTable.Inserts
import WorkflowScript.Proofs.Template.Scope
import WorkflowScript.Proofs.Workflow.Declared
import WorkflowScript.Workflow.Inputs

namespace WorkflowScript

open Document Text

def inputEntries (root : Node) : List (String × Node) :=
  ((root.atPath ["on", "workflow_call", "inputs"]).bind Node.entries).getD []

def LastDeclared (entries : List (String × Node)) (name : String) (node : Node) : Prop :=
  ∃ before declared after, entries = before ++ (declared, node) :: after ∧ node.kind = .mapping ∧
    foldName declared = foldName name ∧
    ∀ later ∈ after, later.2.kind = .mapping → foldName later.1 ≠ foldName name

namespace InputTable

section Table

variable {entries : List (String × Node)} {entry : String × Node} {name : String} {input : Input}

theorem declared?_eq_some_iff {made : String × Input} :
    declared? entry = some made ↔ entry.2.kind = .mapping ∧ made = (entry.1, .ofNode entry.2) := by
  rw [declared?, Option.ite_none_right_eq_some, Node.entries_isSome_iff, Option.some.injEq,
    @eq_comm _ made]

theorem get?_ofList_declared : (NameTable.ofList (entries.filterMap declared?)).get? name = some input ↔
    ∃ node, LastDeclared entries name node ∧ input = .ofNode node := by
  rw [NameTable.get?_ofList, Option.map_eq_some_iff]
  simp only [NameTable.lastUnder_eq_some_iff, filterMap_eq_split_iff]
  constructor
  · rintro ⟨_, ⟨hname, _, _, ⟨before, entry, after, hentries, hentry, -, rfl⟩, hlast⟩, rfl⟩
    obtain ⟨hkind, rfl⟩ := declared?_eq_some_iff.mp hentry
    refine ⟨entry.2, ⟨before, entry.1, after, hentries, hkind, hname, ?_⟩, rfl⟩
    intro later hlater hmapping
    have hdeclared : declared? later = some (later.1, .ofNode later.2) :=
      declared?_eq_some_iff.mpr ⟨hmapping, rfl⟩
    exact hlast (later.1, .ofNode later.2) (List.mem_filterMap.mpr ⟨later, hlater, hdeclared⟩)
  · rintro ⟨node, ⟨before, declared, after, hentries, hkind, hname, hlast⟩, rfl⟩
    have hentry : declared? (declared, node) = some (declared, .ofNode node) :=
      declared?_eq_some_iff.mpr ⟨hkind, rfl⟩
    refine ⟨(declared, .ofNode node), ⟨hname, before.filterMap declared?, after.filterMap declared?,
      ⟨before, (declared, node), after, hentries, hentry, rfl, rfl⟩, ?_⟩, rfl⟩
    intro made hmade
    obtain ⟨later, hlater, hdeclared⟩ := List.mem_filterMap.mp hmade
    obtain ⟨hmapping, rfl⟩ := declared?_eq_some_iff.mp hdeclared
    exact hlast later hlater hmapping

theorem ofRoot_eq (root : Node) : ofRoot root = .ofList ((inputEntries root).filterMap declared?) := by
  rw [ofRoot, inputEntries]
  cases (root.atPath ["on", "workflow_call", "inputs"]).bind Node.entries with
  | none => rfl
  | some entries => rfl

theorem get?_ofRoot_eq_some_iff {root : Node} : (ofRoot root).get? name = some input ↔
    ∃ node, LastDeclared (inputEntries root) name node ∧ input = .ofNode node := by
  rw [ofRoot_eq, get?_ofList_declared]

theorem get?_ofRoot_eq_none_iff {root : Node} : (ofRoot root).get? name = none ↔
    ∀ node, ¬ LastDeclared (inputEntries root) name node := by
  rw [Option.eq_none_iff_forall_ne_some]
  simp only [ne_eq, get?_ofRoot_eq_some_iff, not_exists, not_and]
  exact ⟨fun h node hnode => h _ node hnode rfl, fun h _ node hnode => absurd hnode (h node)⟩

end Table

theorem hasDefault_ofNode (node : Node) :
    (Input.ofNode node).hasDefault = (Input.ofNode node).value.isSome := by
  rw [Input.ofNode]
  split <;> rfl

theorem hasDefault_of_mem_ofRoot {root : Node} {entry : String × Input}
    (h : entry ∈ (ofRoot root).toList) :
    entry.2.hasDefault = entry.2.value.isSome := by
  obtain ⟨node, -, hnode⟩ := get?_ofRoot_eq_some_iff.mp (NameTable.get?_eq_some_of_mem h rfl)
  rw [hnode, hasDefault_ofNode]

end InputTable

/-- What a placeholder for an input of the name comes to: the default of its last declaration, in double
quotes where it has a space, or the cause why there is none. -/
inductive Supplied (root : Node) (name : String) : Except CompileError (List Char) → Prop
  | undeclared (h : ∀ node, ¬ LastDeclared (inputEntries root) name node) :
      Supplied root name (.error (.undefinedInput name))
  | withoutDefault {node : Node} (h : LastDeclared (inputEntries root) name node)
      (hnone : ∀ value, node.child "default" = some value → value.kind ≠ .scalar) :
      Supplied root name (.error (.missingInputDefault name))
  | plain {node value : Node} {text : String} (h : LastDeclared (inputEntries root) name node)
      (hvalue : node.child "default" = some value) (htext : value.scalarText = some text)
      (hspace : ' ' ∉ text.toList) : Supplied root name (.ok text.toList)
  | quoted {node value : Node} {text : String} (h : LastDeclared (inputEntries root) name node)
      (hvalue : node.child "default" = some value) (htext : value.scalarText = some text)
      (hspace : ' ' ∈ text.toList) : Supplied root name (.ok ('"' :: (text.toList ++ ['"'])))

namespace Placeholder

open InputTable

variable {root : Node} {combination : Combination} {name : String} {node : Node}

theorem input_of_none (h : ∀ node, ¬ LastDeclared (inputEntries root) name node) :
    Bindings.input ⟨ofRoot root, combination⟩ name = .error (.undefinedInput name) := by
  rw [Bindings.input, get?_ofRoot_eq_none_iff.mpr h]

theorem input_of_lastDeclared (h : LastDeclared (inputEntries root) name node) :
    Bindings.input ⟨ofRoot root, combination⟩ name =
      match (node.child "default").bind Node.scalarText with
      | some text => .ok (quoteIfNeeded text)
      | none => .error (.missingInputDefault name) := by
  rw [Bindings.input, get?_ofRoot_eq_some_iff.mpr ⟨node, h, rfl⟩, Input.ofNode]
  cases (node.child "default").bind Node.scalarText with
  | none => rfl
  | some text => rfl

theorem toList_quoteIfNeeded_of_mem {text : String} (h : ' ' ∈ text.toList) :
    (quoteIfNeeded text).toList = '"' :: (text.toList ++ ['"']) := by
  rw [quoteIfNeeded, if_pos h, String.toList_append, String.toList_append]
  rfl

theorem toList_quoteIfNeeded_of_notMem {text : String} (h : ' ' ∉ text.toList) :
    (quoteIfNeeded text).toList = text.toList := by
  rw [quoteIfNeeded, if_neg h]

theorem input_of_text {value : Node} {text : String} (h : LastDeclared (inputEntries root) name node)
    (hvalue : node.child "default" = some value) (htext : value.scalarText = some text) :
    Bindings.input ⟨ofRoot root, combination⟩ name = .ok (quoteIfNeeded text) := by
  rw [input_of_lastDeclared h, hvalue, Option.bind_some, htext]

theorem bind_scalarText_eq_none_iff {default : Option Node} :
    default.bind Node.scalarText = none ↔ ∀ value, default = some value → value.kind ≠ .scalar := by
  rw [Option.bind_eq_none_iff]
  simp only [ne_eq, ← Node.scalarText_isSome_iff, Option.not_isSome_iff_eq_none]

theorem supplied_input (root : Node) (combination : Combination) (name : String) :
    Supplied root name ((Bindings.input ⟨ofRoot root, combination⟩ name).map String.toList) := by
  by_cases hdeclared : ∃ node, LastDeclared (inputEntries root) name node
  · obtain ⟨node, hnode⟩ := hdeclared
    cases hdefault : (node.child "default").bind Node.scalarText with
    | none =>
      rw [input_of_lastDeclared hnode, hdefault]
      exact .withoutDefault hnode (bind_scalarText_eq_none_iff.mp hdefault)
    | some text =>
      obtain ⟨value, hvalue, htext⟩ := Option.bind_eq_some_iff.mp hdefault
      rw [input_of_text hnode hvalue htext]
      change Supplied root name (.ok (quoteIfNeeded text).toList)
      by_cases hspace : ' ' ∈ text.toList
      · rw [toList_quoteIfNeeded_of_mem hspace]
        exact .quoted hnode hvalue htext hspace
      · rw [toList_quoteIfNeeded_of_notMem hspace]
        exact .plain hnode hvalue htext hspace
  · have hnone := not_exists.mp hdeclared
    rw [input_of_none hnone]
    exact .undeclared hnone

theorem input_of_supplied {out : Except CompileError (List Char)} (h : Supplied root name out) :
    (Bindings.input ⟨ofRoot root, combination⟩ name).map String.toList = out := by
  cases h with
  | undeclared hnone =>
    rw [input_of_none hnone]
    rfl
  | withoutDefault hnode hnone =>
    rw [input_of_lastDeclared hnode, bind_scalarText_eq_none_iff.mpr hnone]
    rfl
  | plain hnode hvalue htext hspace =>
    rw [input_of_text hnode hvalue htext, Except.map, toList_quoteIfNeeded_of_notMem hspace]
  | quoted hnode hvalue htext hspace =>
    rw [input_of_text hnode hvalue htext, Except.map, toList_quoteIfNeeded_of_mem hspace]

theorem resolve_whole {bindings : Bindings} {o : Occurrence} (h : Written o) :
    resolve bindings o.whole = valueOf bindings o := by
  have hpieces := pieces_append (whole_ne_nil h) (recognise_append h [])
  rw [List.append_nil, pieces_nil] at hpieces
  rw [resolve, hpieces, resolvePieces, resolvePieces]
  cases valueOf bindings o with
  | error e => rfl
  | ok value => exact congrArg Except.ok (List.append_nil value)

theorem resolve_eq_iff_supplied (root : Node) (combination : Combination) {o : Occurrence}
    {scope name : List Char} (h : Written o) (hgroups : o.groups = [scope, name])
    (hscope : sameIgnoringAsciiCase scope inputsWord = true) (out : Except CompileError (List Char)) :
    resolve ⟨ofRoot root, combination⟩ o.whole = out ↔ Supplied root (.ofList name) out := by
  rw [resolve_whole h, valueOf_of_same hgroups hscope]
  constructor
  · rintro rfl
    exact supplied_input root combination _
  · exact input_of_supplied

theorem supplied_nil_iff : Supplied root name (.ok []) ↔ ∃ node value,
    LastDeclared (inputEntries root) name node ∧ node.child "default" = some value ∧
      value.scalarText = some "" := by
  constructor
  · generalize hout : (.ok [] : Except CompileError (List Char)) = out
    intro h
    cases h with
    | undeclared hnone => cases hout
    | withoutDefault hnode hnone => cases hout
    | @plain node value text hnode hvalue htext hspace =>
      obtain rfl : text = "" := String.toList_eq_nil_iff.mp (Except.ok.inj hout).symm
      exact ⟨node, value, hnode, hvalue, htext⟩
    | quoted hnode hvalue htext hspace => cases hout
  · rintro ⟨node, value, hnode, hvalue, htext⟩
    exact .plain hnode hvalue htext (by simp)

theorem inputs_by_last_declaration (root : Node) (combination : Combination) {name : List Char}
    (hne : name ≠ []) (hname : ∀ c ∈ name, isNameChar c = true) :
    (∀ out, resolve ⟨ofRoot root, combination⟩ (usual inputsWord name).whole = out ↔
      Supplied root (.ofList name) out) ∧
    (resolve ⟨ofRoot root, combination⟩ (usual inputsWord name).whole = .ok [] ↔
      ∃ node value, LastDeclared (inputEntries root) (.ofList name) node ∧
        node.child "default" = some value ∧ value.scalarText = some "") ∧
    ∀ entry ∈ (ofRoot root).toList, entry.2.hasDefault = entry.2.value.isSome := by
  have hspelling : Spelling inputsWord inputsWord := by
    unfold Spelling
    decide
  have hwritten := written_usual (.inl hspelling) hne hname
  have hresolve := resolve_eq_iff_supplied root combination hwritten rfl
    (sameIgnoringAsciiCase_refl inputsWord)
  refine ⟨hresolve, ?_, fun entry => hasDefault_of_mem_ofRoot⟩
  rw [hresolve, supplied_nil_iff]

def redeclared : List (String × Node) :=
  [("rev", .mapping [(.string "default", .string "v1")]),
    ("note", .mapping [(.string "default", .string "a b")]),
    ("REV", .mapping [(.string "default", .null)]),
    ("Note", .string "text")]

def redeclaring : Node :=
  let inputs := .mapping (redeclared.map fun e => (.string e.1, e.2))
  .mapping [(.string "on", .mapping [(.string "workflow_call", .mapping [(.string "inputs", inputs)])])]

theorem inputs_of_redeclaring :
    resolve ⟨ofRoot redeclaring, .none⟩ "$\x7b\x7b inputs.rev \x7d\x7d".toList =
      .error (.missingInputDefault "rev") ∧
    resolve ⟨ofRoot redeclaring, .none⟩ "$\x7b\x7b inputs.NOTE \x7d\x7d".toList =
      .ok "\"a b\"".toList := by
  have hrevName : ∀ c ∈ "rev".toList, isNameChar c = true := List.all_eq_true.mp (by decide)
  have hnoteName : ∀ c ∈ "NOTE".toList, isNameChar c = true := List.all_eq_true.mp (by decide)
  obtain ⟨hrev, -⟩ := inputs_by_last_declaration redeclaring .none (by decide) hrevName
  obtain ⟨hnote, -⟩ := inputs_by_last_declaration redeclaring .none (by decide) hnoteName
  have hfold : foldName "Note" = foldName "NOTE" ∧ foldName "note" = foldName "NOTE" ∧
      foldName "REV" = foldName "rev" ∧ foldName "REV" ≠ foldName "NOTE" := by decide +kernel
  refine ⟨(hrev _).mpr ?_, (hnote _).mpr ?_⟩
  · refine .withoutDefault ⟨redeclared.take 2, "REV", redeclared.drop 3, rfl, rfl, hfold.2.2.1, ?_⟩ ?_
    · simp [redeclared, Node.kind]
    · rintro value ⟨⟩
      simp [Node.kind]
  · have hlast : LastDeclared (inputEntries redeclaring) "NOTE"
        (.mapping [(.string "default", .string "a b")]) := by
      refine ⟨redeclared.take 1, "note", redeclared.drop 2, rfl, rfl, hfold.2.1, ?_⟩
      simp [redeclared, Node.kind, hfold.2.2.2]
    have hspace : ' ' ∈ "a b".toList := by decide
    exact .quoted hlast rfl rfl hspace

end Placeholder

end WorkflowScript
