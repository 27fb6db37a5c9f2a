import Mathlib.Algebra.BigOperators.Group.List.Basic
import WorkflowScript.Proofs.NameTable
import WorkflowScript.Workflow.Matrix

namespace WorkflowScript.Matrix

def product : List Axis → List (List (String × String))
  | [] => [[]]
  | axis :: axes => axis.values.flatMap fun value => (product axes).map ((axis.name, value) :: ·)

def Axis.size (axis : Axis) : Nat := axis.values.length

def stride (axes : List Axis) (place : Nat) : Nat := ((axes.drop (place + 1)).map Axis.size).prod

section Count

theorem length_product (axes : List Axis) : (product axes).length = (axes.map Axis.size).prod := by
  induction axes with
  | nil => rfl
  | cons axis axes ih => simp [product, List.length_flatMap, ih, List.map_const', Axis.size]

theorem length_of_mem_product {axes : List Axis} {pairs : List (String × String)}
    (h : pairs ∈ product axes) : pairs.length = axes.length := by
  induction axes generalizing pairs with
  | nil =>
    rw [product, List.mem_singleton] at h
    rw [h]
    rfl
  | cons axis axes ih =>
    simp only [product, List.mem_flatMap, List.mem_map] at h
    obtain ⟨value, -, rest, hrest, rfl⟩ := h
    rw [List.length_cons, List.length_cons, ih hrest]

theorem getElem?_flatMap_of_length {α β : Type} {f : α → List β} {m : Nat} (hm : 0 < m)
    (hf : ∀ x, (f x).length = m) (xs : List α) (i : Nat) :
    (xs.flatMap f)[i]? = xs[i / m]?.bind fun x => (f x)[i % m]? := by
  induction xs generalizing i with
  | nil => simp
  | cons x xs ih =>
    rw [List.flatMap_cons]
    by_cases hi : i < m
    · rw [List.getElem?_append_left (by rw [hf]; exact hi), Nat.div_eq_of_lt hi, Nat.mod_eq_of_lt hi]
      rfl
    · have hge : m ≤ i := Nat.le_of_not_lt hi
      have hdiv : i / m = (i - m) / m + 1 := by
        rw [Nat.div_eq i m, if_pos ⟨hm, hge⟩]
      rw [List.getElem?_append_right (by rw [hf]; exact hge), hf, ih, hdiv, List.getElem?_cons_succ,
        ← Nat.mod_eq_sub_mod hge]

theorem stride_cons_zero (axis : Axis) (axes : List Axis) :
    stride (axis :: axes) 0 = (product axes).length := by
  rw [length_product]
  rfl

theorem stride_cons_succ (axis : Axis) (axes : List Axis) (place : Nat) :
    stride (axis :: axes) (place + 1) = stride axes place := rfl

theorem stride_mul_size_dvd {axes : List Axis} {place : Nat} {axis : Axis}
    (h : axes[place]? = some axis) : stride axes place * axis.size ∣ (product axes).length := by
  obtain ⟨hlt, rfl⟩ := List.getElem?_eq_some_iff.mp h
  have hsplit : axes = axes.take place ++ axes[place] :: axes.drop (place + 1) := by
    rw [← List.drop_eq_getElem_cons hlt, List.take_append_drop]
  have hprod : (axes.map Axis.size).prod =
      ((axes.take place).map Axis.size).prod * (axes[place].size * stride axes place) := by
    conv_lhs => rw [hsplit]
    rw [List.map_append, List.prod_append, List.map_cons, List.prod_cons]
    rfl
  rw [length_product, hprod, Nat.mul_comm (stride axes place)]
  exact Nat.dvd_mul_left _ _

theorem digit_mod {i m s n : Nat} (h : s * n ∣ m) : i % m / s % n = i / s % n := by
  obtain ⟨t, rfl⟩ := h
  rw [Nat.mul_assoc, Nat.mod_mul_right_div_self, Nat.mod_mul_right_mod]

theorem product_getElem? {axes : List Axis} {i : Nat} {pairs : List (String × String)}
    (h : (product axes)[i]? = some pairs) {place : Nat} {axis : Axis}
    (hplace : axes[place]? = some axis) :
    ∃ value, axis.values[i / stride axes place % axis.size]? = some value ∧
      pairs[place]? = some (axis.name, value) := by
  induction axes generalizing i pairs place with
  | nil => simp at hplace
  | cons first axes ih =>
    -- an index is a value of the first axis and an index into the product of the others
    have hpos : 0 < (product axes).length := by
      apply Nat.pos_of_ne_zero
      intro hzero
      rw [product, List.length_eq_zero_iff.mp hzero] at h
      simp at h
    rw [product, getElem?_flatMap_of_length hpos (fun _ => List.length_map _)] at h
    obtain ⟨value, hvalue, hmap⟩ := Option.bind_eq_some_iff.mp h
    rw [List.getElem?_map] at hmap
    obtain ⟨rest, hrest, rfl⟩ := Option.map_eq_some_iff.mp hmap
    cases place with
    | zero =>
      have heq : first = axis := by simpa using hplace
      subst heq
      refine ⟨value, ?_, rfl⟩
      have hlt : i / (product axes).length < first.size :=
        (List.getElem?_eq_some_iff.mp hvalue).1
      rw [stride_cons_zero, Nat.mod_eq_of_lt hlt, hvalue]
    | succ place =>
      rw [List.getElem?_cons_succ] at hplace
      obtain ⟨value, hvalue, hpair⟩ := ih hrest hplace
      refine ⟨value, ?_, hpair⟩
      rw [stride_cons_succ, ← digit_mod (stride_mul_size_dvd hplace), hvalue]

end Count

section Binding

open NameTable

/-- What the current combination looks like where the walk reaches these axes: `kept` is bound by the
axes before them, and what earlier branches left behind names the first few of them. -/
structure Reaches (axes : List Axis) (kept : List (String × String)) (walk : Walk) : Prop where
  stale : ∃ left : List (String × String), walk.current.pairs = kept ++ left ∧
    left.map Prod.fst <+: axes.map Axis.name
  distinct : ((kept.map fun e => foldName e.1) ++ axes.map fun axis => foldName axis.name).Nodup

theorem Reaches.bind {axis : Axis} {axes : List Axis} {kept : List (String × String)} {walk : Walk}
    (h : Reaches (axis :: axes) kept walk) (value : String) :
    Reaches axes (kept ++ [(axis.name, value)]) (walk.bind axis.name value) := by
  obtain ⟨⟨left, hleft, hnames⟩, hdistinct⟩ := h
  have hfresh : foldName axis.name ∉ kept.map fun e => foldName e.1 := by
    intro hmem
    rw [List.nodup_append] at hdistinct
    exact hdistinct.2.2 _ hmem _ (by simp) rfl
  have hpairs : (walk.bind axis.name value).current.pairs =
      put axis.name value (kept ++ left) := by
    rw [← hleft]
    rfl
  refine ⟨?_, by simpa using hdistinct⟩
  rw [hpairs, put_append_of_notMem hfresh]
  cases left with
  | nil => exact ⟨[], by simp, by simp⟩
  | cons old left =>
    simp only [List.map_cons, List.cons_prefix_cons] at hnames
    refine ⟨left, ?_, hnames.2⟩
    rw [put_cons, if_pos (congrArg foldName hnames.1)]
    simp

theorem Reaches.unbind {axis : Axis} {axes : List Axis} {kept : List (String × String)} {walk : Walk}
    {value : String} (h : Reaches axes (kept ++ [(axis.name, value)]) walk) :
    Reaches (axis :: axes) kept walk := by
  obtain ⟨⟨left, hleft, hnames⟩, hdistinct⟩ := h
  refine ⟨⟨(axis.name, value) :: left, by simpa using hleft, ?_⟩, by simpa using hdistinct⟩
  simpa using hnames

theorem Reaches.eq_of_nil {kept : List (String × String)} {walk : Walk} (h : Reaches [] kept walk) :
    walk.current.pairs = kept := by
  obtain ⟨left, hleft, hnames⟩ := h.stale
  have hnil : left = [] := by simpa using hnames
  rw [hleft, hnil, List.append_nil]

theorem combine_found {axes : List Axis} {kept : List (String × String)} {walk : Walk}
    (h : Reaches axes kept walk) :
    Reaches axes kept (combine axes walk) ∧
      (combine axes walk).found.map Combination.pairs =
        walk.found.map Combination.pairs ++ (product axes).map (kept ++ ·) := by
  induction axes generalizing kept walk with
  | nil =>
    refine ⟨⟨h.stale, h.distinct⟩, ?_⟩
    simp [combine, Walk.keep, product, h.eq_of_nil]
  | cons axis axes ih =>
    rw [combine, product]
    -- the values are gone through one by one, from whatever state the last branch has left
    generalize axis.values = values
    induction values generalizing walk with
    | nil => exact ⟨h, by simp⟩
    | cons value values ihValues =>
      obtain ⟨hreach, hfound⟩ := ih (h.bind value)
      obtain ⟨hend, hrest⟩ := ihValues hreach.unbind
      rw [List.foldl_cons]
      refine ⟨hend, ?_⟩
      rw [hrest, hfound]
      simp [Walk.bind, List.map_flatMap]

theorem combine_pairs {axes : List Axis} (h : (axes.map fun axis => foldName axis.name).Nodup) :
    (combine axes ⟨.none, []⟩).found.map Combination.pairs = product axes := by
  have hstart : Reaches axes [] ⟨.none, []⟩ := ⟨⟨[], rfl, by simp⟩, by simpa using h⟩
  simpa using (combine_found hstart).2

end Binding

end WorkflowScript.Matrix
