import Mathlib.Data.List.Basic
import Mathlib.Data.List.TakeWhile
import WorkflowScript.Text.Blank

namespace WorkflowScript.Text

theorem allBlank_append (front back : List Char) :
    allBlank (front ++ back) = (allBlank front && allBlank back) := List.all_append

theorem notMem_of_allBlank {gap : List Char} {c : Char} (h : allBlank gap = true) (hc : isBlank c = false) :
    c ∉ gap := by
  intro hmem
  rw [List.all_eq_true.mp h c hmem] at hc
  cases hc

theorem trimStart_append {gap : List Char} (h : allBlank gap = true) (text : List Char) :
    trimStart (gap ++ text) = trimStart text :=
  List.dropWhile_append_of_pos fun c hc => List.all_eq_true.mp h c hc

theorem trimStart_cons {c : Char} (h : isBlank c = false) (text : List Char) :
    trimStart (c :: text) = c :: text := by
  rw [trimStart, List.dropWhile_cons_of_neg (by simp [h])]

theorem isBlank_of_visible {c : Char} (h : 0x20 < c.toNat) (h' : c.toNat < 0x7F) :
    isBlank c = false := by
  simp only [isBlank, Bool.or_eq_false_iff, Bool.and_eq_false_iff, decide_eq_false_iff_not,
    beq_eq_false_iff_ne]
  omega

theorem toNat_of_isDigit {c : Char} (h : c.isDigit = true) : 48 ≤ c.toNat ∧ c.toNat ≤ 57 :=
  Char.isDigit_iff_toNat.mp h

theorem isBlank_of_isDigit {c : Char} (h : c.isDigit = true) : isBlank c = false := by
  have hrange := toNat_of_isDigit h
  exact isBlank_of_visible (by omega) (by omega)

theorem exists_eq_append_trimStart (text : List Char) :
    ∃ gap, allBlank gap = true ∧ text = gap ++ trimStart text := by
  refine ⟨text.takeWhile isBlank, ?_, (List.takeWhile_append_dropWhile).symm⟩
  exact List.all_eq_true.mpr fun c hc => List.mem_takeWhile_imp hc

theorem trimStart_append_of_open {text : List Char} (h : allBlank text = false) (back : List Char) :
    trimStart (text ++ back) = trimStart text ++ back := by
  have hne : trimStart text ≠ [] := fun hnil => by
    rw [(trimStart_eq_nil_iff text).mp hnil] at h
    cases h
  have hfalse : (text.dropWhile isBlank).isEmpty = false := List.isEmpty_eq_false_iff.mpr hne
  rw [trimStart, List.dropWhile_append, hfalse]
  rfl

section End

theorem prefix_trimEnd (text : List Char) : trimEnd text <+: text := by
  induction text with
  | nil => exact List.nil_prefix
  | cons c text ih =>
    rw [trimEnd]
    cases hkept : trimEnd text with
    | nil =>
      change (if isBlank c = true then [] else [c]) <+: c :: text
      split
      · exact List.nil_prefix
      · exact List.prefix_append [c] text
    | cons d kept =>
      rw [hkept] at ih
      exact List.cons_prefix_cons.mpr ⟨rfl, ih⟩

theorem trimEnd_append {back : List Char} (h : allBlank back = false) (front : List Char) :
    trimEnd (front ++ back) = front ++ trimEnd back := by
  induction front with
  | nil => rfl
  | cons c front ih =>
    have hne : front ++ trimEnd back ≠ [] := by
      rw [ne_eq, List.append_eq_nil_iff, trimEnd_eq_nil_iff, h]
      simp
    rw [List.cons_append, trimEnd, ih]
    obtain ⟨d, kept, hkept⟩ := List.exists_cons_of_ne_nil hne
    rw [List.cons_append, hkept]

theorem trimEnd_append_of_blank {gap : List Char} (h : allBlank gap = true) (text : List Char) :
    trimEnd (text ++ gap) = trimEnd text := by
  induction text with
  | nil => exact (trimEnd_eq_nil_iff gap).mpr h
  | cons c text ih => rw [List.cons_append, trimEnd, ih, trimEnd]

theorem exists_eq_trimEnd_append (text : List Char) :
    ∃ gap, allBlank gap = true ∧ text = trimEnd text ++ gap := by
  obtain ⟨gap, hgap⟩ := prefix_trimEnd text
  refine ⟨gap, ?_, hgap.symm⟩
  by_contra hopen
  have hkept := trimEnd_append (Bool.eq_false_iff.mpr hopen) (trimEnd text)
  rw [hgap] at hkept
  have hnil : trimEnd gap = [] := List.self_eq_append_right.mp hkept
  exact hopen ((trimEnd_eq_nil_iff gap).mp hnil)

theorem trimEnd_trimEnd (text : List Char) : trimEnd (trimEnd text) = trimEnd text := by
  obtain ⟨gap, hgap, htext⟩ := exists_eq_trimEnd_append text
  calc trimEnd (trimEnd text) = trimEnd (trimEnd text ++ gap) := (trimEnd_append_of_blank hgap _).symm
    _ = trimEnd text := by rw [← htext]

theorem trimEnd_concat {c : Char} (h : isBlank c = false) (front : List Char) :
    trimEnd (front ++ [c]) = front ++ [c] := by
  have hc : trimEnd [c] = [c] := by simp [trimEnd, h]
  rw [trimEnd_append (by simp [allBlank, h]), hc]

theorem trimEnd_cons {text : List Char} (h : allBlank text = false) (c : Char) :
    trimEnd (c :: text) = c :: trimEnd text := trimEnd_append h [c]

theorem isBlank_of_trimEnd_eq {front : List Char} {c : Char} (h : trimEnd (front ++ [c]) = front ++ [c]) :
    isBlank c = false := by
  by_contra hblank
  rw [Bool.not_eq_false] at hblank
  rw [trimEnd_append_of_blank (by simp [allBlank, hblank])] at h
  have hlength := (prefix_trimEnd front).length_le
  rw [h, List.length_append, List.length_singleton] at hlength
  omega

structure Trimmed (text out : List Char) : Prop where
  split : ∃ gap, allBlank gap = true ∧ text = out ++ gap
  visible : ∀ c, out.getLast? = some c → isBlank c = false

theorem trimmed_iff {text out : List Char} : Trimmed text out ↔ out = trimEnd text := by
  constructor
  · rintro ⟨⟨gap, hgap, rfl⟩, hvisible⟩
    rw [trimEnd_append_of_blank hgap]
    rcases out.eq_nil_or_concat with rfl | ⟨front, c, rfl⟩
    · rfl
    · rw [List.concat_eq_append] at hvisible ⊢
      exact (trimEnd_concat (hvisible c List.getLast?_concat) front).symm
  · rintro rfl
    refine ⟨exists_eq_trimEnd_append text, fun c hlast => ?_⟩
    obtain ⟨front, hfront⟩ := List.getLast?_eq_some_iff.mp hlast
    exact isBlank_of_trimEnd_eq (hfront ▸ trimEnd_trimEnd text)

theorem trim_trimEnd (text : List Char) : trim (trimEnd text) = trim text := by
  cases hopen : allBlank text with
  | true => rw [(trimEnd_eq_nil_iff text).mpr hopen, (trim_eq_nil_iff text).mpr hopen]; rfl
  | false =>
    obtain ⟨gap, hgap, htext⟩ := exists_eq_trimEnd_append text
    rw [← allBlank_trimEnd] at hopen
    calc trim (trimEnd text) = trimEnd (trimStart (trimEnd text) ++ gap) :=
          (trimEnd_append_of_blank hgap _).symm
      _ = trim (trimEnd text ++ gap) := by rw [trim, trimStart_append_of_open hopen]
      _ = trim text := by rw [← htext]

theorem trim_append_blank {gap : List Char} (h : allBlank gap = true) (text : List Char) :
    trim (text ++ gap) = trim text := by
  rw [← trim_trimEnd, trimEnd_append_of_blank h, trim_trimEnd]

theorem trimStart_trimStart (text : List Char) : trimStart (trimStart text) = trimStart text := by
  obtain ⟨gap, hgap, htext⟩ := exists_eq_append_trimStart text
  calc trimStart (trimStart text) = trimStart (gap ++ trimStart text) := (trimStart_append hgap _).symm
    _ = trimStart text := by rw [← htext]

theorem trim_trim (text : List Char) : trim (trim text) = trim text := by
  calc trim (trim text) = trim (trimStart text) := trim_trimEnd (trimStart text)
    _ = trim text := by rw [trim, trimStart_trimStart, trim]

end End

section Visible

def lastVisible (text : List Char) : Option Char := (trimEnd text).getLast?

variable {gap : List Char}

theorem lastVisible_append_blank (h : allBlank gap = true) (text : List Char) :
    lastVisible (text ++ gap) = lastVisible text := by
  rw [lastVisible, trimEnd_append_of_blank h, lastVisible]

theorem lastVisible_append_open (h : allBlank gap = false) (text : List Char) :
    lastVisible (text ++ gap) = lastVisible gap := by
  have hne : trimEnd gap ≠ [] := fun hnil => by
    rw [(trimEnd_eq_nil_iff gap).mp hnil] at h
    cases h
  rw [lastVisible, trimEnd_append h, List.getLast?_append_of_ne_nil _ hne, lastVisible]

theorem lastVisible_concat {c : Char} (h : isBlank c = false) (text : List Char) :
    lastVisible (text ++ [c]) = some c := by
  rw [lastVisible, trimEnd_concat h, List.getLast?_concat]

end Visible

end WorkflowScript.Text
