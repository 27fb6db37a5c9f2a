import WorkflowScript.Proofs.Document.Cut
import WorkflowScript.Proofs.Document.Replace
import WorkflowScript.Proofs.Matrix.Expansion
import WorkflowScript.Workflow.Step

namespace WorkflowScript

open Document NameTable

namespace Matrix

theorem product_singletons (pairs : List (String × String)) :
    product (pairs.map fun pair => ⟨pair.1, [pair.2]⟩) = [pairs] := by
  induction pairs with
  | nil => rfl
  | cons pair pairs ih => simp [product, ih]

def digit (axes : List Axis) (i place : Nat) : Nat :=
  i / stride axes place % (axes[place]?.elim 0 Axis.size)

def Axis.keep (place : Nat) (axis : Axis) : Axis := ⟨axis.name, axis.values[place]?.toList⟩

theorem product_keep {axes : List Axis} {i : Nat} {pairs : List (String × String)}
    (h : (product axes)[i]? = some pairs) :
    product (axes.mapIdx fun place axis => axis.keep (digit axes i place)) = [pairs] := by
  rw [← product_singletons pairs]
  congr 1
  -- place by place, the one value that is left is the value of the pair there
  apply List.ext_getElem?
  intro place
  rw [List.getElem?_mapIdx, List.getElem?_map]
  cases hplace : axes[place]? with
  | none =>
    have hlength := length_of_mem_product (List.mem_of_getElem? h)
    rw [List.getElem?_eq_none_iff] at hplace
    rw [List.getElem?_eq_none (hlength ▸ hplace)]
    rfl
  | some axis =>
    obtain ⟨value, hvalue, hpair⟩ := product_getElem? h hplace
    rw [hpair]
    simp [Axis.keep, digit, hplace, hvalue]

theorem digit_quoted (axes : List Axis) (i place : Nat) :
    digit (axes.map Axis.quoted) i place = digit axes i place := by
  rw [digit, digit, stride_quoted, List.getElem?_map]
  cases axes[place]? <;> simp

theorem digit_lt {axes : List Axis} {i place : Nat} {axis : Axis} (h : axes[place]? = some axis)
    (hpos : 0 < axis.size) : digit axes i place < axis.size := by
  rw [digit, h]
  exact Nat.mod_lt _ hpos

theorem quoted_keep (place : Nat) (axis : Axis) :
    (axis.keep place).quoted = axis.quoted.keep place := by
  cases hvalue : axis.values[place]? <;> simp [Axis.keep, Axis.quoted, hvalue]

theorem getElem?_filterMap_scalarText {items : List Node} (h : ∀ item ∈ items, item.kind = .scalar)
    (place : Nat) : (items.filterMap Node.scalarText)[place]? = items[place]?.bind Node.scalarText := by
  induction items generalizing place with
  | nil => rfl
  | cons item items ih =>
    obtain ⟨hitem, hitems⟩ := List.forall_mem_cons.mp h
    obtain ⟨text, htext⟩ := Node.exists_scalarText_iff.mpr hitem
    rw [List.filterMap_cons_some htext]
    cases place with
    | zero => simp [htext]
    | succ place => simpa using ih hitems place

theorem axisTexts_keepItem {node : Node} (h : IsAxis node) (place : Nat) :
    axisTexts (node.keepItem place) = (axisTexts node)[place]?.toList := by
  obtain ⟨items, hitems, -, hkinds⟩ := h
  rw [axisTexts, axisTexts, Node.items_keepItem, hitems, Option.map_some, Option.getD_some,
    Option.getD_some, getElem?_filterMap_scalarText hkinds]
  cases items[place]? with
  | none => rfl
  | some item => cases htext : item.scalarText <;> simp [htext]

theorem isAxis_keepItem {node : Node} {place : Nat} (h : IsAxis node)
    (hplace : place < (axisTexts node).length) : IsAxis (node.keepItem place) := by
  have htexts := axisTexts_keepItem h place
  obtain ⟨items, hitems, -, hkinds⟩ := h
  rw [List.getElem?_eq_getElem hplace] at htexts
  refine ⟨items[place]?.toList, by rw [Node.items_keepItem, hitems]; rfl, ?_, ?_⟩
  · intro hnil
    rw [axisTexts, Node.items_keepItem, hitems, Option.map_some, Option.getD_some, hnil] at htexts
    cases htexts
  · intro item hitem
    exact hkinds item (List.mem_of_getElem? (Option.mem_toList.mp hitem))

def DistinctNames (entries : List (String × Node)) : Prop :=
  (entries.map fun entry => foldName entry.1).Nodup

def cutEntries (i : Nat) (entries : List (String × Node)) : List (String × Node) :=
  entries.mapIdx fun place entry => (entry.1, entry.2.keepItem (digit (declaredAxes entries) i place))

section Cut

variable {entries : List (String × Node)} (hdistinct : DistinctNames entries)

include hdistinct

theorem declaredAxes_of_distinct :
    declaredAxes entries = entries.map fun entry => ⟨entry.1, axisTexts entry.2⟩ := by
  rw [declaredAxes, merged_of_nodup hdistinct]

theorem distinctNames_cutEntries (i : Nat) : DistinctNames (cutEntries i entries) := by
  have hnames : (cutEntries i entries).map (fun entry => foldName entry.1) =
      entries.map fun entry => foldName entry.1 := by
    apply List.ext_getElem?
    intro place
    simp [cutEntries, Function.comp_def]
  rwa [DistinctNames, hnames]

variable (haxes : ∀ entry ∈ entries, IsAxis entry.2)

include haxes

theorem declaredAxes_cutEntries (i : Nat) :
    declaredAxes (cutEntries i entries) = (declaredAxes entries).mapIdx fun place axis =>
      axis.keep (digit (declaredAxes entries) i place) := by
  rw [declaredAxes_of_distinct (distinctNames_cutEntries hdistinct i), cutEntries]
  apply List.ext_getElem?
  intro place
  rw [List.getElem?_map, List.getElem?_mapIdx, List.getElem?_mapIdx]
  generalize digit (declaredAxes entries) i place = picked
  rw [declaredAxes_of_distinct hdistinct, List.getElem?_map]
  cases hentry : entries[place]? with
  | none => rfl
  | some entry =>
    simp [Axis.keep, axisTexts_keepItem (haxes entry (List.mem_of_getElem? hentry))]

theorem isAxis_of_mem_cutEntries (i : Nat) : ∀ entry ∈ cutEntries i entries, IsAxis entry.2 := by
  intro entry hentry
  obtain ⟨place, hplace⟩ := List.mem_iff_getElem?.mp hentry
  rw [cutEntries, List.getElem?_mapIdx] at hplace
  obtain ⟨old, hold, rfl⟩ := Option.map_eq_some_iff.mp hplace
  have haxis := haxes old (List.mem_of_getElem? hold)
  have hdeclared : (declaredAxes entries)[place]? = some ⟨old.1, axisTexts old.2⟩ := by
    rw [declaredAxes_of_distinct hdistinct, List.getElem?_map, hold]
    rfl
  exact isAxis_keepItem haxis (digit_lt hdeclared (size_pos_of_isAxis haxis))

theorem product_cutEntries {i : Nat} {pairs : List (String × String)}
    (h : (product ((declaredAxes entries).map Axis.quoted))[i]? = some pairs) :
    product ((declaredAxes (cutEntries i entries)).map Axis.quoted) = [pairs] := by
  rw [← product_keep h, declaredAxes_cutEntries hdistinct haxes]
  congr 1
  apply List.ext_getElem?
  intro place
  simp only [List.getElem?_map, List.getElem?_mapIdx, Option.map_map, Function.comp_def, quoted_keep,
    digit_quoted]

end Cut

def cutTo (i : Nat) (matrix : Node) : Node :=
  matrix.mapNamed fun place axis =>
    axis.keepItem (digit (declaredAxes (matrix.entries.getD [])) i place)

theorem entries_cutTo {matrix : Node} {entries : List (String × Node)}
    (h : matrix.entries = some entries) (i : Nat) :
    (cutTo i matrix).entries = some (cutEntries i entries) := by
  rw [cutTo, Node.entries_mapNamed, h]
  rfl

theorem eq_of_pairs {a b : Combination} (h : a.pairs = b.pairs) : a = b := by
  obtain ⟨⟨entries, _⟩⟩ := a
  obtain ⟨⟨entries', _⟩⟩ := b
  cases h
  rfl

end Matrix

namespace Job

def withMatrix (job : Job) (matrix : Node) : Job :=
  { job with body := Node.setPath matrix ["strategy", "matrix"] job.body }

def leg (job : Job) (i : Nat) : Job :=
  match job.matrix with
  | none => job
  | some matrix => job.withMatrix (Matrix.cutTo i matrix)

def legs (job : Job) (count : Nat) : List Job := (List.range count).map job.leg

def DistinctAxes (job : Job) : Prop :=
  ∀ matrix entries, job.matrix = some matrix → matrix.entries = some entries →
    Matrix.DistinctNames entries

variable {job : Job}

theorem matrix_withMatrix {matrix other : Node} (h : job.matrix = some matrix)
    (hkind : other.kind = .mapping) : (job.withMatrix other).matrix = some other := by
  have hpath := (Option.filter_eq_some_iff.mp h).1
  rw [Job.matrix, withMatrix, Node.atPath_setPath hpath]
  simp [hkind]

theorem name_leg (job : Job) (i : Nat) : (job.leg i).name = job.name := by
  rw [leg]
  cases job.matrix <;> rfl

theorem child_leg {key : String} (h : key ≠ "strategy") (job : Job) (i : Nat) :
    (job.leg i).body.child key = job.body.child key := by
  rw [leg]
  cases job.matrix with
  | none => rfl
  | some matrix => exact Node.child_setPath_of_ne h ["matrix"] job.body

theorem runsOn_leg (job : Job) (i : Nat) : (job.leg i).runsOn = job.runsOn := by
  rw [runsOn, runsOn, child_leg (by decide)]

theorem runs_leg (job : Job) (i : Nat) : (job.leg i).runs = job.runs := by
  rw [runs, runs, steps, steps, child_leg (by decide), name_leg]

theorem expand_leg (hdistinct : job.DistinctAxes) {combinations : List Combination}
    (hexpand : Matrix.expand job = .ok combinations) {i : Nat} {combination : Combination}
    (hi : combinations[i]? = some combination) :
    Matrix.expand (job.leg i) = .ok [combination] := by
  cases hmatrix : job.matrix with
  | none =>
    rw [Matrix.expand, hmatrix] at hexpand
    cases hexpand
    rw [leg, hmatrix, Matrix.expand, hmatrix, List.mem_singleton.mp (List.mem_of_getElem? hi)]
  | some matrix =>
    obtain ⟨entries, hentries⟩ := Matrix.exists_entries_of_matrix hmatrix
    have hnames := hdistinct matrix entries hmatrix hentries
    have haxes := Matrix.isAxis_of_expand_ok hmatrix hentries hexpand
    have hcut := Matrix.entries_cutTo hentries i
    have hleg : (job.leg i).matrix = some (Matrix.cutTo i matrix) := by
      rw [leg, hmatrix]
      exact matrix_withMatrix hmatrix (Node.exists_entries_iff.mp ⟨_, hcut⟩)
    obtain ⟨found, hfound⟩ := Matrix.exists_expand_of_isAxis hleg hcut
      (Matrix.isAxis_of_mem_cutEntries hnames haxes i)
    -- both expansions are products: the leg's has the pairs of this combination alone
    have hpairs : (Matrix.product ((Matrix.declaredAxes entries).map Matrix.Axis.quoted))[i]? =
        some combination.pairs := by
      rw [← Matrix.map_pairs_of_expand_ok hmatrix hentries hexpand, List.getElem?_map, hi]
      rfl
    have hone : found.map Combination.pairs = [combination.pairs] := by
      rw [Matrix.map_pairs_of_expand_ok hleg hcut hfound, Matrix.product_cutEntries hnames haxes hpairs]
    obtain ⟨only, rfl, honly⟩ := List.map_eq_singleton_iff.mp hone
    rw [hfound, Matrix.eq_of_pairs honly]

theorem forall₂_legs (job : Job) (combinations : List Combination) :
    List.Forall₂ (fun leg combination => ∃ i, combinations[i]? = some combination ∧ leg = job.leg i)
      (job.legs combinations.length) combinations := by
  rw [List.forall₂_iff_get]
  refine ⟨by simp [legs], ?_⟩
  intro i _ hi
  exact ⟨i, List.getElem?_eq_getElem hi, by simp [legs]⟩

end Job

end WorkflowScript
