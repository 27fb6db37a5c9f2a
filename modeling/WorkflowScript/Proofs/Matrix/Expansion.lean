import WorkflowScript.Proofs.Document.Kind
import WorkflowScript.Proofs.Matrix.Product
import WorkflowScript.Proofs.Outcome

namespace WorkflowScript.Matrix

open Document NameTable Outcome

def IsAxis (node : Node) : Prop :=
  ∃ items, node.items = some items ∧ items ≠ [] ∧ ∀ item ∈ items, item.kind = .scalar

def axisTexts (node : Node) : List String := (node.items.getD []).filterMap Node.scalarText

def declaredAxes (entries : List (String × Node)) : List Axis :=
  (merged entries).map fun entry => ⟨entry.1, axisTexts entry.2⟩

def axisFlaws (axis : String) : List JobFlaw :=
  [.axisNotSequence axis, .axisNotScalar axis, .axisEmpty axis]

theorem mapM_scalarText {items : List Node} {texts : List String}
    (h : items.mapM Node.scalarText = some texts) :
    (∀ item ∈ items, item.kind = .scalar) ∧ texts = items.filterMap Node.scalarText := by
  induction items generalizing texts with
  | nil =>
    cases h
    exact ⟨by simp, rfl⟩
  | cons item items ih =>
    simp only [List.mapM_cons, Option.bind_eq_bind, Option.bind_eq_some_iff, Option.pure_def,
      Option.some.injEq] at h
    obtain ⟨text, htext, rest, hrest, rfl⟩ := h
    obtain ⟨hkinds, rfl⟩ := ih hrest
    refine ⟨List.forall_mem_cons.mpr ⟨Node.exists_scalarText_iff.mp ⟨text, htext⟩, hkinds⟩, ?_⟩
    rw [List.filterMap_cons_some htext]

theorem mapM_scalarText_of_kind {items : List Node} (h : ∀ item ∈ items, item.kind = .scalar) :
    items.mapM Node.scalarText = some (items.filterMap Node.scalarText) := by
  induction items with
  | nil => rfl
  | cons item items ih =>
    obtain ⟨hitem, hitems⟩ := List.forall_mem_cons.mp h
    obtain ⟨text, htext⟩ := Node.exists_scalarText_iff.mpr hitem
    simp [List.mapM_cons, htext, ih hitems]

theorem axisValues_of_isAxis (job axis : String) {node : Node} (h : IsAxis node) :
    axisValues job axis node = .ok ((axisTexts node).map quoteIfNeeded) := by
  obtain ⟨items, hitems, hne, hkinds⟩ := h
  obtain ⟨first, rest, rfl⟩ := List.exists_cons_of_ne_nil hne
  obtain ⟨text, htext⟩ := Node.exists_scalarText_iff.mpr (hkinds first List.mem_cons_self)
  have htexts : axisTexts node = text :: rest.filterMap Node.scalarText := by
    rw [axisTexts, hitems, Option.getD_some, List.filterMap_cons_some htext]
  have hmap := mapM_scalarText_of_kind hkinds
  rw [List.filterMap_cons_some htext] at hmap
  simp only [axisValues, hitems, hmap, htexts]

theorem axisValues_of_not_isAxis (job axis : String) {node : Node} (h : ¬ IsAxis node) :
    ∃ flaw ∈ axisFlaws axis, axisValues job axis node = .error (.structural job flaw) := by
  cases hitems : node.items with
  | none => exact ⟨.axisNotSequence axis, by simp [axisFlaws], by simp only [axisValues, hitems]⟩
  | some items =>
    cases hmap : items.mapM Node.scalarText with
    | none => exact ⟨.axisNotScalar axis, by simp [axisFlaws], by simp only [axisValues, hitems, hmap]⟩
    | some texts =>
      obtain ⟨hkinds, htexts⟩ := mapM_scalarText hmap
      have hnil : items = [] := by
        by_contra hne
        exact h ⟨items, hitems, hne, hkinds⟩
      subst hnil
      refine ⟨.axisEmpty axis, by simp [axisFlaws], ?_⟩
      simp only [axisValues, hitems, hmap, htexts, List.filterMap_nil]

theorem exists_axisValues_ok_iff {job axis : String} {node : Node} :
    (∃ values, axisValues job axis node = .ok values) ↔ IsAxis node := by
  constructor
  · rintro ⟨values, hvalues⟩
    by_contra h
    obtain ⟨flaw, -, herror⟩ := axisValues_of_not_isAxis job axis h
    rw [hvalues] at herror
    cases herror
  · intro h
    exact ⟨_, axisValues_of_isAxis job axis h⟩

def axisEntry (job : String) (entry : String × Node) : Except CompileError (String × List String) :=
  (axisValues job entry.1 entry.2).map (Prod.mk entry.1)

theorem axisTable_eq (job : String) (table : NameTable (List String)) (entries : List (String × Node)) :
    axisTable job table entries = (entries.mapM (axisEntry job)).map fun pairs =>
      pairs.foldl (fun table pair => table.insert pair.1 pair.2) table := by
  induction entries generalizing table with
  | nil => rfl
  | cons entry entries ih =>
    obtain ⟨axis, node⟩ := entry
    rw [axisTable, List.mapM_cons, axisEntry]
    cases axisValues job axis node with
    | error e => rfl
    | ok values =>
      change axisTable job (table.insert axis values) entries = _
      rw [ih]
      cases entries.mapM (axisEntry job) with
      | error e => simp [Except.map, bind, Except.bind]
      | ok pairs => simp [Except.map, bind, Except.bind, pure, Except.pure]

theorem exists_axisEntry_ok_iff {job : String} {entry : String × Node} :
    (∃ pair, axisEntry job entry = .ok pair) ↔ IsAxis entry.2 := by
  rw [← @exists_axisValues_ok_iff job entry.1]
  simp [axisEntry, map_eq_ok_iff]

theorem merged_map {α β : Type} (f : α → β) (entries : List (String × α)) :
    merged (entries.map fun e => (e.1, f e.2)) = (merged entries).map fun e => (e.1, f e.2) := by
  have hlast : ∀ key, lastUnder (entries.map fun e => (e.1, f e.2)) key =
      (lastUnder entries key).map fun e => (e.1, f e.2) := by
    intro key
    simp only [lastUnder, List.findRev?_eq_find?_reverse, ← List.map_reverse, List.find?_map]
    rfl
  simp only [merged, List.map_filterMap, funext hlast]
  simp [foldedNames, Function.comp_def]

def Axis.quoted (axis : Axis) : Axis := ⟨axis.name, axis.values.map quoteIfNeeded⟩

theorem axes_of_isAxis {job : String} {entries : List (String × Node)}
    (h : ∀ entry ∈ entries, IsAxis entry.2) :
    axes job entries = .ok ((declaredAxes entries).map Axis.quoted) := by
  have hall : entries.mapM (axisEntry job) =
      .ok (entries.map fun entry => (entry.1, (axisTexts entry.2).map quoteIfNeeded)) := by
    rw [mapM_eq_ok_iff, List.forall₂_map_right_iff, List.forall₂_same]
    intro entry hentry
    rw [axisEntry, axisValues_of_isAxis job entry.1 (h entry hentry)]
    rfl
  rw [axes, axisTable_eq, hall]
  change Except.ok ((ofList _).toList.map _) = _
  rw [toList_ofList, merged_map fun node => (axisTexts node).map quoteIfNeeded]
  simp [declaredAxes, Axis.quoted]

theorem axes_eq_error_iff {job : String} {entries : List (String × Node)} {e : CompileError} :
    axes job entries = .error e ↔ ∃ before entry after, entries = before ++ entry :: after ∧
      (∀ earlier ∈ before, IsAxis earlier.2) ∧ axisValues job entry.1 entry.2 = .error e := by
  rw [axes, axisTable_eq, map_eq_error_iff, map_eq_error_iff, mapM_eq_error_iff]
  simp only [exists_axisEntry_ok_iff]
  simp only [axisEntry, map_eq_error_iff]

theorem nodup_fold_declaredAxes (entries : List (String × Node)) :
    ((declaredAxes entries).map fun axis => foldName axis.name).Nodup := by
  have hfold : (declaredAxes entries).map (fun axis => foldName axis.name) = foldedNames entries := by
    rw [← map_fold_merged]
    simp [declaredAxes, Function.comp_def]
  rw [hfold]
  exact nodup_foldedNames entries

@[simp] theorem size_quoted (axis : Axis) : axis.quoted.size = axis.size := by
  simp [Axis.size, Axis.quoted]

@[simp] theorem stride_quoted (axes : List Axis) (place : Nat) :
    stride (axes.map Axis.quoted) place = stride axes place := by
  simp [stride, ← List.map_drop, Function.comp_def]

theorem size_pos_of_isAxis {node : Node} (h : IsAxis node) : 0 < (axisTexts node).length := by
  obtain ⟨items, hitems, hne, hkinds⟩ := h
  obtain ⟨first, rest, rfl⟩ := List.exists_cons_of_ne_nil hne
  obtain ⟨text, htext⟩ := Node.exists_scalarText_iff.mpr (hkinds first List.mem_cons_self)
  rw [axisTexts, hitems, Option.getD_some, List.filterMap_cons_some htext]
  exact Nat.succ_pos _

theorem prod_size_pos {entries : List (String × Node)} (h : ∀ entry ∈ entries, IsAxis entry.2) :
    0 < ((declaredAxes entries).map Axis.size).prod := by
  rw [List.prod_pos_iff_forall_pos_nat]
  intro size hsize
  simp only [declaredAxes, List.map_map, List.mem_map] at hsize
  obtain ⟨entry, hentry, rfl⟩ := hsize
  exact size_pos_of_isAxis (h entry (mem_of_mem_merged hentry))

section Expansion

variable {job : Job} {node : Node} {entries : List (String × Node)}
  (hmatrix : job.matrix = some node) (hentries : node.entries = some entries)

include hmatrix hentries

theorem expand_eq : expand job =
    (axes job.name entries).map fun axes => (combine axes ⟨.none, []⟩).found := by
  simp only [expand, hmatrix, hentries, Option.getD_some]

theorem exists_expand_of_isAxis (h : ∀ entry ∈ entries, IsAxis entry.2) :
    ∃ combinations, expand job = .ok combinations := by
  rw [expand_eq hmatrix hentries, axes_of_isAxis h]
  exact ⟨_, rfl⟩

theorem exists_expand_error_iff :
    (∃ e, expand job = .error e) ↔ ∃ entry ∈ entries, ¬ IsAxis entry.2 := by
  rw [expand_eq hmatrix hentries]
  simp only [map_eq_error_iff]
  constructor
  · rintro ⟨e, he⟩
    by_contra hall
    push Not at hall
    rw [axes_of_isAxis hall] at he
    cases he
  · rintro ⟨entry, hentry, hnot⟩
    rcases exists_ok_or_error (axes job.name entries) with ⟨found, hfound⟩ | herror
    · rw [axes, axisTable_eq, map_eq_ok_iff] at hfound
      obtain ⟨table, htable, -⟩ := hfound
      obtain ⟨pairs, hpairs, -⟩ := map_eq_ok_iff.mp htable
      have hall := exists_mapM_eq_ok_iff.mp ⟨pairs, hpairs⟩ entry hentry
      exact absurd (exists_axisEntry_ok_iff.mp hall) hnot
    · exact herror

theorem expand_error {e : CompileError} (he : expand job = .error e) :
    ∃ before axis values after flaw, entries = before ++ (axis, values) :: after ∧
      (∀ earlier ∈ before, IsAxis earlier.2) ∧ ¬ IsAxis values ∧ flaw ∈ axisFlaws axis ∧
      e = .structural job.name flaw := by
  rw [expand_eq hmatrix hentries, map_eq_error_iff, axes_eq_error_iff] at he
  obtain ⟨before, ⟨axis, values⟩, after, hsplit, hbefore, hvalues⟩ := he
  have hnot : ¬ IsAxis values := by
    intro h
    rw [axisValues_of_isAxis job.name axis h] at hvalues
    cases hvalues
  obtain ⟨flaw, hflaw, heq⟩ := axisValues_of_not_isAxis job.name axis hnot
  rw [heq] at hvalues
  cases hvalues
  exact ⟨before, axis, values, after, flaw, hsplit, hbefore, hnot, hflaw, rfl⟩

theorem isAxis_of_expand_ok {combinations : List Combination} (h : expand job = .ok combinations) :
    ∀ entry ∈ entries, IsAxis entry.2 := by
  intro entry hentry
  by_contra hnot
  obtain ⟨e, he⟩ := (exists_expand_error_iff hmatrix hentries).mpr ⟨entry, hentry, hnot⟩
  rw [h] at he
  cases he

theorem map_pairs_of_expand_ok {combinations : List Combination}
    (h : expand job = .ok combinations) :
    combinations.map Combination.pairs = product ((declaredAxes entries).map Axis.quoted) := by
  have hall := isAxis_of_expand_ok hmatrix hentries h
  rw [expand_eq hmatrix hentries, axes_of_isAxis hall] at h
  cases h
  apply combine_pairs
  simpa [Function.comp_def, Axis.quoted] using nodup_fold_declaredAxes entries

end Expansion

theorem exists_entries_of_matrix {job : Job} {node : Node} (h : job.matrix = some node) :
    ∃ entries, node.entries = some entries := by
  have hkind : node.kind = .mapping := by
    simpa using (Option.mem_filter_iff.mp (show node ∈ job.matrix from h)).2
  exact Node.exists_entries_iff.mpr hkind

theorem exists_expand_iff {job : Job} :
    (∃ combinations, expand job = .ok combinations) ↔
      ∀ node entries, job.matrix = some node → node.entries = some entries →
        ∀ entry ∈ entries, IsAxis entry.2 := by
  cases hmatrix : job.matrix with
  | none => simp [expand, hmatrix]
  | some node =>
    obtain ⟨entries, hentries⟩ := exists_entries_of_matrix hmatrix
    constructor
    · rintro ⟨combinations, hok⟩ other found hother hfound
      cases hother
      exact isAxis_of_expand_ok hmatrix hfound hok
    · intro hall
      exact exists_expand_of_isAxis hmatrix hentries (hall node entries rfl hentries)

theorem get?_of_pairs {combination : Combination} {place : Nat} {name value : String}
    (h : combination.pairs[place]? = some (name, value)) {other : String}
    (hname : foldName other = foldName name) : combination.get? other = some value :=
  lookup_eq_some_of_mem combination.values.distinct (List.mem_of_getElem? h) hname

theorem expand_ordered_product (job : Job) :
    (job.matrix = none → expand job = .ok [.none]) ∧
    ∀ node, job.matrix = some node → ∃ entries, node.entries = some entries ∧
      ((∃ e, expand job = .error e) ↔ ∃ entry ∈ entries, ¬ IsAxis entry.2) ∧
      (∀ e, expand job = .error e → ∃ before axis values after flaw,
        entries = before ++ (axis, values) :: after ∧ (∀ earlier ∈ before, IsAxis earlier.2) ∧
        ¬ IsAxis values ∧ flaw ∈ axisFlaws axis ∧ e = .structural job.name flaw) ∧
      ∀ combinations, expand job = .ok combinations →
        combinations ≠ [] ∧
        combinations.length = ((declaredAxes entries).map Axis.size).prod ∧
        ∀ i (hi : i < combinations.length),
          combinations[i].pairs.length = (declaredAxes entries).length ∧
          ∀ place axis, (declaredAxes entries)[place]? = some axis →
            ∃ text, axis.values[i / stride (declaredAxes entries) place % axis.size]? = some text ∧
              ∃ shown, shown = (if ' ' ∈ text.toList then "\"" ++ text ++ "\"" else text) ∧
                combinations[i].pairs[place]? = some (axis.name, shown) ∧
                ∀ name, foldName name = foldName axis.name →
                  combinations[i].get? name = some shown := by
  constructor
  · intro hnone
    rw [expand, hnone]
  intro node hmatrix
  obtain ⟨entries, hentries⟩ := exists_entries_of_matrix hmatrix
  refine ⟨entries, hentries, exists_expand_error_iff hmatrix hentries,
    fun e => expand_error hmatrix hentries, ?_⟩
  intro combinations hok
  have hpairs := map_pairs_of_expand_ok hmatrix hentries hok
  have hlength : combinations.length = ((declaredAxes entries).map Axis.size).prod := by
    have hcount := congrArg List.length hpairs
    rw [List.length_map, length_product] at hcount
    simpa [Function.comp_def] using hcount
  refine ⟨?_, hlength, ?_⟩
  · rintro rfl
    have hpos := prod_size_pos (isAxis_of_expand_ok hmatrix hentries hok)
    rw [← hlength] at hpos
    exact absurd hpos (by simp)
  intro i hi
  have hmem : (product ((declaredAxes entries).map Axis.quoted))[i]? = some combinations[i].pairs := by
    rw [← hpairs, List.getElem?_map, List.getElem?_eq_getElem hi]
    rfl
  refine ⟨by simpa using length_of_mem_product (List.mem_of_getElem? hmem), ?_⟩
  intro place axis hplace
  have hquoted : ((declaredAxes entries).map Axis.quoted)[place]? = some axis.quoted := by
    rw [List.getElem?_map, hplace]
    rfl
  obtain ⟨shown, hshown, hpair⟩ := product_getElem? hmem hquoted
  rw [stride_quoted, size_quoted, Axis.quoted, List.getElem?_map] at hshown
  obtain ⟨text, htext, rfl⟩ := Option.map_eq_some_iff.mp hshown
  exact ⟨text, htext, quoteIfNeeded text, rfl, hpair, fun name => get?_of_pairs hpair⟩

def crossingAxes : Node :=
  .mapping [(.string "OS", .sequence [.string "linux"]),
    (.string "node", .sequence [.string "a b", .string "c"]),
    (.string "os", .sequence [.string "mac", .string "win"])]

def crossing : Job :=
  ⟨"build", .mapping [(.string "strategy", .mapping [(.string "matrix", crossingAxes)])]⟩

theorem expand_crossing : crossing.matrix = some crossingAxes ∧
    ∃ combinations, expand crossing = .ok combinations ∧ combinations.length = 4 ∧
      ∃ third, combinations[2]? = some third ∧ third.pairs[0]? = some ("os", "win") ∧
        third.get? "Node" = some "\"a b\"" := by
  refine ⟨rfl, ?_⟩
  obtain ⟨entries, hentries, -, -, h⟩ := (expand_ordered_product crossing).2 crossingAxes rfl
  cases hentries
  obtain ⟨combinations, hok⟩ : ∃ combinations, expand crossing = .ok combinations := ⟨_, rfl⟩
  obtain ⟨-, hlength, hat⟩ := h combinations hok
  have hfour : combinations.length = 4 := hlength.trans (by decide +kernel)
  have hthird : 2 < combinations.length := by omega
  obtain ⟨-, hplaces⟩ := hat 2 hthird
  obtain ⟨text, htext, shown, hshown, hpair, -⟩ := hplaces 0 ⟨"os", ["mac", "win"]⟩ rfl
  obtain ⟨other, hother, quoted, hquoted, -, hget⟩ := hplaces 1 ⟨"node", ["a b", "c"]⟩ rfl
  cases htext
  cases hother
  refine ⟨combinations, hok, hfour, combinations[2], List.getElem?_eq_getElem hthird, ?_, ?_⟩
  · rw [hpair, hshown]
    rfl
  · rw [hget "Node" (by decide +kernel), hquoted]
    rfl

end WorkflowScript.Matrix
