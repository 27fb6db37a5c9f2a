import Mathlib.Algebra.Order.Field.Rat
import Mathlib.Order.Compare
import Mathlib.Tactic.Positivity
import WorkflowScript.Shell.Tool.Lines

namespace WorkflowScript.Shell.Lines

open Std (TransCmp OrientedCmp)

section Comparing

variable {α β : Type} {cmp cmp' : α → α → Ordering}

theorem transCmp_on [TransCmp cmp] (f : β → α) : TransCmp fun a b => cmp (f a) (f b) where
  eq_swap := OrientedCmp.eq_swap
  isLE_trans := TransCmp.isLE_trans

theorem transCmp_swap [TransCmp cmp] : TransCmp fun a b => (cmp a b).swap := by
  have hswap : (fun a b => (cmp a b).swap) = fun a b => cmp b a :=
    funext₂ fun a b => (@OrientedCmp.eq_swap α cmp _ b a).symm
  rw [hswap]
  exact TransCmp.opposite

theorem transCmp_same : TransCmp fun _ _ : α => Ordering.eq where
  eq_swap := rfl
  isLE_trans := fun _ _ => rfl

theorem transCmp_then (h : TransCmp cmp) (h' : TransCmp cmp') : TransCmp fun a b => (cmp a b).then (cmp' a b) :=
  inferInstanceAs (TransCmp (compareLex cmp cmp'))

end Comparing

section Orders

theorem compareTexts_eq : compareTexts = List.compareLex (compareOn Char.toNat) := by
  funext a b
  induction a generalizing b with
  | nil => cases b <;> rfl
  | cons c a ih =>
    cases b with
    | nil => rfl
    | cons d b =>
      rw [compareTexts, List.compareLex_cons_cons, ← ih, compareOn]
      split
      · next hsame => rw [hsame, compare_eq_iff_eq.mpr rfl, Ordering.eq_then]
      · next hne =>
        have hcodes : compare c.toNat d.toNat ≠ .eq := fun heq => hne (Char.toNat_inj.mp (compare_eq_iff_eq.mp heq))
        cases hcompare : compare c.toNat d.toNat with
        | lt => rfl
        | eq => exact absurd hcompare hcodes
        | gt => rfl

instance : TransCmp compareTexts := by
  rw [compareTexts_eq]
  infer_instance

theorem eq_of_compareTexts {a b : Chars} (h : compareTexts a b = .eq) : a = b := by
  induction a generalizing b with
  | nil =>
    cases b with
    | nil => rfl
    | cons d b => cases h
  | cons c a ih =>
    cases b with
    | nil => cases h
    | cons d b =>
      rw [compareTexts] at h
      split at h
      · next hsame => rw [hsame, ih h]
      · next hne => exact absurd (Char.toNat_inj.mp (compare_eq_iff_eq.mp h)) hne

def Decimal (d : Int × Nat) : ℚ := d.1 / 10 ^ d.2

theorem decimal_lt_iff (a b : Int × Nat) : a.1 * Int.pow 10 b.2 < b.1 * Int.pow 10 a.2 ↔ Decimal a < Decimal b := by
  have ha : (0 : ℚ) < 10 ^ a.2 := by positivity
  have hb : (0 : ℚ) < 10 ^ b.2 := by positivity
  rw [Decimal, Decimal, div_lt_div_iff₀ ha hb]
  change a.1 * 10 ^ b.2 < b.1 * 10 ^ a.2 ↔ _
  exact_mod_cast Iff.rfl

theorem compareDecimals_eq (a b : Int × Nat) : compareDecimals a b = compare (Decimal a) (Decimal b) := by
  rw [compareDecimals]
  rcases lt_trichotomy (Decimal a) (Decimal b) with h | h | h
  · rw [compare_lt_iff_lt.mpr h, compare_lt_iff_lt.mpr ((decimal_lt_iff a b).mpr h)]
  · have heq : a.1 * Int.pow 10 b.2 = b.1 * Int.pow 10 a.2 :=
      le_antisymm (not_lt.mp fun hlt => ((decimal_lt_iff b a).mp hlt).ne' h)
        (not_lt.mp fun hlt => ((decimal_lt_iff a b).mp hlt).ne h)
    rw [compare_eq_iff_eq.mpr h, compare_eq_iff_eq.mpr heq]
  · rw [compare_gt_iff_gt.mpr h, compare_gt_iff_gt.mpr ((decimal_lt_iff b a).mpr h)]

instance : TransCmp compareDecimals := by
  have heq : compareDecimals = fun a b => compare (Decimal a) (Decimal b) := funext₂ compareDecimals_eq
  rw [heq]
  exact transCmp_on Decimal

def Order.key (order : Order) (text : Chars) : Chars :=
  let trimmed := if order.skipsBlanks then text.dropWhile isBlank else text
  if order.ignoresCase then trimmed.map Char.toUpper else trimmed

theorem transCmp_order (order : Order) : TransCmp order.compare := by
  have hforward : TransCmp fun a b =>
      if order.numeric then compareDecimals (decimal a) (decimal b) else compareTexts (order.key a) (order.key b) := by
    split
    · exact transCmp_on decimal
    · exact transCmp_on order.key
  change TransCmp fun a b => order.compare a b
  unfold Order.compare
  dsimp only
  split
  · exact @transCmp_swap _ _ hforward
  · exact hforward

end Orders

namespace Sorting

variable (sorting : Sorting)

instance transCmp_keys : TransCmp sorting.compareKeys := by
  have hfold (keys : List SortKey) {cmp : Chars → Chars → Ordering} (hcmp : TransCmp cmp) :
      TransCmp fun a b => keys.foldl (fun found key =>
        found.then (key.order.compare (keyText sorting.separator key a) (keyText sorting.separator key b)))
          (cmp a b) := by
    induction keys generalizing cmp with
    | nil => exact hcmp
    | cons key keys ih =>
      have hkey := transCmp_order key.order
      exact ih (transCmp_then hcmp (transCmp_on (keyText sorting.separator key)))
  change TransCmp fun a b => sorting.compareKeys a b
  unfold compareKeys
  split
  · exact transCmp_order sorting.order
  · exact hfold _ transCmp_same

instance transCmp_lines : TransCmp sorting.compareLines := by
  refine transCmp_then (transCmp_keys sorting) ?_
  cases sorting.unique || sorting.stable with
  | false =>
    cases sorting.order.backwards with
    | false => exact inferInstanceAs (TransCmp compareTexts)
    | true => exact @transCmp_swap _ compareTexts _
  | true =>
    cases sorting.order.backwards with
    | false => exact transCmp_same
    | true => exact transCmp_same

variable {sorting} {lines lines' : List Chars}

theorem bne_gt_eq_isLE (order : Ordering) : (order != .gt) = order.isLE := by
  cases order <;> rfl

theorem sort_of_not_unique (h : sorting.unique = false) : sorting.sort lines =
    lines.mergeSort fun a b => (sorting.compareLines a b).isLE := by
  rw [sort, h, funext₂ fun a b => bne_gt_eq_isLE (sorting.compareLines a b)]
  rfl

theorem sort_of_unique (h : sorting.unique = true) : sorting.sort lines =
    sorting.keepFirst (lines.mergeSort fun a b => (sorting.compareLines a b).isLE) := by
  rw [sort, h, funext₂ fun a b => bne_gt_eq_isLE (sorting.compareLines a b)]
  rfl

theorem compareLines_isLE_total (a b : Chars) :
    ((sorting.compareLines a b).isLE || (sorting.compareLines b a).isLE) = true := by
  rw [@OrientedCmp.eq_swap _ sorting.compareLines _ b a]
  cases sorting.compareLines a b <;> rfl

theorem pairwise_sortedLines (lines : List Chars) :
    (lines.mergeSort fun a b => (sorting.compareLines a b).isLE).Pairwise
      fun a b => (sorting.compareLines a b).isLE = true :=
  List.pairwise_mergeSort (fun _ _ _ => TransCmp.isLE_trans) compareLines_isLE_total lines

theorem sort_perm (h : sorting.unique = false) (lines : List Chars) : (sorting.sort lines).Perm lines := by
  rw [sort_of_not_unique h]
  exact List.mergeSort_perm lines _

theorem eq_of_compareLines (hunique : sorting.unique = false) (hstable : sorting.stable = false) {a b : Chars}
    (h : sorting.compareLines a b = .eq) : a = b := by
  rw [compareLines, hunique, hstable, Ordering.then_eq_eq] at h
  have hlast := h.2
  cases hbackwards : sorting.order.backwards with
  | false =>
    rw [hbackwards] at hlast
    exact eq_of_compareTexts hlast
  | true =>
    rw [hbackwards] at hlast
    exact eq_of_compareTexts (Ordering.swap_eq_eq.mp hlast)

theorem sort_eq_of_perm (hunique : sorting.unique = false) (hstable : sorting.stable = false)
    (h : lines.Perm lines') : sorting.sort lines = sorting.sort lines' := by
  have hperm : (sorting.sort lines).Perm (sorting.sort lines') :=
    ((sort_perm hunique lines).trans h).trans (sort_perm hunique lines').symm
  rw [sort_of_not_unique hunique, sort_of_not_unique hunique] at hperm ⊢
  refine List.Perm.eq_of_pairwise (fun a b _ _ hab hba => ?_)
    (pairwise_sortedLines lines) (pairwise_sortedLines lines') hperm
  exact eq_of_compareLines hunique hstable (OrientedCmp.isLE_antisymm hab hba)

section Stable

def sameKeys (sorting : Sorting) (line other : Chars) : Bool := sorting.compareKeys line other == .eq

theorem sameKeys_iff {a b : Chars} : sorting.sameKeys a b = true ↔ sorting.compareKeys a b = .eq := beq_iff_eq

theorem compareLines_eq_compareKeys (h : (sorting.unique || sorting.stable) = true) (a b : Chars) :
    sorting.compareLines a b = sorting.compareKeys a b := by
  rw [compareLines, h]
  cases sorting.order.backwards <;> exact Ordering.then_eq

theorem filter_sortedLines (h : (sorting.unique || sorting.stable) = true) (lines : List Chars) (line : Chars) :
    (lines.mergeSort fun a b => (sorting.compareLines a b).isLE).filter (sorting.sameKeys line) =
      lines.filter (sorting.sameKeys line) := by
  have hpairwise : (lines.filter (sorting.sameKeys line)).Pairwise
      fun a b => (sorting.compareLines a b).isLE = true := by
    refine List.pairwise_iff_forall_sublist.mpr fun {a b} hab => ?_
    have ha := sameKeys_iff.mp (List.mem_filter.mp (hab.mem List.mem_cons_self)).2
    have hb := sameKeys_iff.mp (List.mem_filter.mp (hab.mem (List.mem_cons_of_mem a List.mem_cons_self))).2
    rw [compareLines_eq_compareKeys h, TransCmp.congr_left (OrientedCmp.eq_symm ha), hb]
    rfl
  have hsublist : (lines.filter (sorting.sameKeys line)).Sublist
      (lines.mergeSort fun a b => (sorting.compareLines a b).isLE) :=
    List.sublist_mergeSort (fun _ _ _ => TransCmp.isLE_trans) compareLines_isLE_total hpairwise List.filter_sublist
  have hkept := hsublist.filter (sorting.sameKeys line)
  rw [List.filter_filter, funext fun a => Bool.and_self (sorting.sameKeys line a)] at hkept
  exact (hkept.eq_of_length ((List.mergeSort_perm lines _).filter _).length_eq.symm).symm

theorem filter_sort (hunique : sorting.unique = false) (hstable : sorting.stable = true) (lines : List Chars)
    (line : Chars) : (sorting.sort lines).filter (sorting.sameKeys line) = lines.filter (sorting.sameKeys line) := by
  rw [sort_of_not_unique hunique]
  exact filter_sortedLines (by rw [hstable, Bool.or_true]) lines line

end Stable

section Unique

theorem keepFirst_sublist (lines : List Chars) : (sorting.keepFirst lines).Sublist lines := by
  fun_induction sorting.keepFirst lines with
  | case1 => exact List.Sublist.refl _
  | case2 line => exact List.Sublist.refl _
  | case3 a b lines heq ih => exact ih.trans ((List.sublist_cons_self b lines).cons_cons a)
  | case4 a b lines hne ih => exact ih.cons_cons a

theorem lt_of_pairwise {a b : Chars} {lines : List Chars}
    (h : (a :: b :: lines).Pairwise fun a b => (sorting.compareKeys a b).isLE = true)
    (hne : sorting.compareKeys a b ≠ .eq) {c : Chars} (hc : c ∈ b :: lines) : sorting.compareKeys a c = .lt := by
  obtain ⟨ha, hlines⟩ := List.pairwise_cons.mp h
  obtain ⟨hb, -⟩ := List.pairwise_cons.mp hlines
  have hab : sorting.compareKeys a b = .lt := by
    cases hcompare : sorting.compareKeys a b with
    | lt => rfl
    | eq => exact absurd hcompare hne
    | gt => exact absurd (hcompare ▸ ha b List.mem_cons_self) (by decide)
  rcases List.mem_cons.mp hc with rfl | hc
  · exact hab
  · exact TransCmp.lt_of_lt_of_isLE hab (hb c hc)

theorem keepFirst_ascending {lines : List Chars}
    (h : lines.Pairwise fun a b => (sorting.compareKeys a b).isLE = true) :
    (sorting.keepFirst lines).Pairwise fun a b => sorting.compareKeys a b = .lt := by
  fun_induction sorting.keepFirst lines with
  | case1 => exact .nil
  | case2 line => exact List.pairwise_singleton _ _
  | case3 a b lines heq ih => exact ih (h.sublist ((List.sublist_cons_self b lines).cons_cons a))
  | case4 a b lines hne ih =>
    refine List.pairwise_cons.mpr ⟨fun c hc => ?_, ih (List.pairwise_cons.mp h).2⟩
    exact lt_of_pairwise h (fun heq => hne (beq_iff_eq.mpr heq)) ((keepFirst_sublist (b :: lines)).mem hc)

theorem filter_keepFirst (line : Chars) {lines : List Chars}
    (h : lines.Pairwise fun a b => (sorting.compareKeys a b).isLE = true) :
    (sorting.keepFirst lines).filter (sorting.sameKeys line) = (lines.filter (sorting.sameKeys line)).take 1 := by
  fun_induction sorting.keepFirst lines with
  | case1 => rfl
  | case2 other => cases hsame : sorting.sameKeys line other <;> simp [hsame]
  | case3 a b lines heq ih =>
    rw [ih (h.sublist ((List.sublist_cons_self b lines).cons_cons a))]
    have hsame : sorting.sameKeys line b = sorting.sameKeys line a := by
      rw [sameKeys, sameKeys, TransCmp.congr_right (beq_iff_eq.mp heq)]
    cases hline : sorting.sameKeys line a with
    | true => simp [hline]
    | false => simp [hline, hsame]
  | case4 a b lines hne ih =>
    rw [List.filter_cons, ih (List.pairwise_cons.mp h).2, List.filter_cons (x := a)]
    cases hline : sorting.sameKeys line a with
    | false => rfl
    | true =>
      have hnone : (b :: lines).filter (sorting.sameKeys line) = [] := by
        refine List.filter_eq_nil_iff.mpr fun c hc hsame => ?_
        have hlt := lt_of_pairwise h (fun heq => hne (beq_iff_eq.mpr heq)) hc
        rw [← TransCmp.congr_left (sameKeys_iff.mp hline), sameKeys_iff.mp hsame] at hlt
        cases hlt
      rw [hnone]
      rfl

theorem keepFirst_of_pairwise {lines : List Chars}
    (h : lines.Pairwise fun a b => sorting.compareKeys a b = .lt) : sorting.keepFirst lines = lines := by
  fun_induction sorting.keepFirst lines with
  | case1 => rfl
  | case2 line => rfl
  | case3 a b lines heq ih =>
    have hlt := (List.pairwise_cons.mp h).1 b List.mem_cons_self
    rw [beq_iff_eq.mp heq] at hlt
    cases hlt
  | case4 a b lines hne ih => rw [ih (List.pairwise_cons.mp h).2]

theorem sort_ascending (h : sorting.unique = true) (lines : List Chars) :
    (sorting.sort lines).Pairwise fun a b => sorting.compareKeys a b = .lt := by
  rw [sort_of_unique h]
  refine keepFirst_ascending ((pairwise_sortedLines lines).imp fun hle => ?_)
  rwa [compareLines_eq_compareKeys (by rw [h, Bool.true_or])] at hle

theorem filter_sort_of_unique (h : sorting.unique = true) (lines : List Chars) (line : Chars) :
    (sorting.sort lines).filter (sorting.sameKeys line) = (lines.filter (sorting.sameKeys line)).take 1 := by
  have hkeys : (sorting.unique || sorting.stable) = true := by rw [h, Bool.true_or]
  rw [sort_of_unique h, filter_keepFirst line, filter_sortedLines hkeys]
  refine (pairwise_sortedLines lines).imp fun hle => ?_
  rwa [compareLines_eq_compareKeys hkeys] at hle

end Unique

section Checked

def Ascends (sorting : Sorting) (a b : Chars) : Prop :=
  if sorting.unique then sorting.compareKeys a b = .lt else (sorting.compareLines a b).isLE = true

instance : Trans sorting.Ascends sorting.Ascends sorting.Ascends where
  trans {a b c} hab hbc := by
    unfold Ascends at hab hbc ⊢
    cases h : sorting.unique with
    | true =>
      rw [h] at hab hbc
      exact TransCmp.lt_trans hab hbc
    | false =>
      rw [h] at hab hbc
      exact TransCmp.isLE_trans hab hbc

theorem Ascends.isLE {a b : Chars} (h : sorting.Ascends a b) : (sorting.compareLines a b).isLE = true := by
  unfold Ascends at h
  cases hunique : sorting.unique with
  | true =>
    rw [hunique, if_pos rfl] at h
    rw [compareLines_eq_compareKeys (by rw [hunique, Bool.true_or]), h]
    rfl
  | false =>
    rw [hunique] at h
    exact h

theorem isSorted_iff_isChain (lines : List Chars) :
    sorting.isSorted lines = true ↔ lines.IsChain sorting.Ascends := by
  fun_induction sorting.isSorted lines with
  | case1 a b lines order ih =>
    rw [Bool.and_eq_true, ih, List.isChain_cons_cons]
    refine and_congr_left fun _ => ?_
    unfold Ascends
    cases h : sorting.unique with
    | true =>
      rw [← compareLines_eq_compareKeys (by rw [h, Bool.true_or])]
      exact beq_iff_eq
    | false =>
      change (sorting.compareLines a b != .gt) = true ↔ _
      rw [bne_gt_eq_isLE]
      exact Iff.rfl
  | case2 lines hlines =>
    cases lines with
    | nil => exact iff_of_true rfl .nil
    | cons a lines =>
      cases lines with
      | nil => exact iff_of_true rfl (.singleton a)
      | cons b lines => exact absurd rfl (hlines a b lines)

theorem isSorted_iff (lines : List Chars) : sorting.isSorted lines = true ↔ lines.Pairwise sorting.Ascends := by
  rw [isSorted_iff_isChain, List.isChain_iff_pairwise]

theorem isSorted_sort (lines : List Chars) : sorting.isSorted (sorting.sort lines) = true := by
  rw [isSorted_iff]
  cases h : sorting.unique with
  | false =>
    rw [sort_of_not_unique h]
    refine (pairwise_sortedLines lines).imp fun hle => ?_
    rwa [Ascends, h]
  | true =>
    refine (sort_ascending h lines).imp fun hlt => ?_
    rwa [Ascends, h]

theorem sort_eq_self_iff (lines : List Chars) : sorting.sort lines = lines ↔ sorting.isSorted lines = true := by
  constructor
  · intro heq
    rw [← heq]
    exact isSorted_sort lines
  · intro hsorted
    have hpairwise := (isSorted_iff lines).mp hsorted
    have hmerge : lines.mergeSort (fun a b => (sorting.compareLines a b).isLE) = lines :=
      List.mergeSort_of_pairwise (hpairwise.imp Ascends.isLE)
    cases h : sorting.unique with
    | false => rw [sort_of_not_unique h, hmerge]
    | true =>
      rw [sort_of_unique h, hmerge]
      refine keepFirst_of_pairwise (hpairwise.imp fun {a b} hab => ?_)
      rwa [Ascends, h] at hab

end Checked

end Sorting

end WorkflowScript.Shell.Lines
