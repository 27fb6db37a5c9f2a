import Mathlib.Data.List.Forall2
import WorkflowScript.Proofs.Text.Blank
import WorkflowScript.Proofs.Text.Pieces
import WorkflowScript.Template.Placeholder

namespace WorkflowScript.Placeholder

open Text

def Spelling (word scope : List Char) : Prop :=
  List.Forall₂ (fun letter c => spells letter c = true) word scope

inductive Written : Occurrence → Prop
  | intro {a scope b c name d : List Char} (ha : allBlank a = true) (hb : allBlank b = true)
      (hc : allBlank c = true) (hd : allBlank d = true)
      (hscope : Spelling inputsWord scope ∨ Spelling matrixWord scope) (hne : name ≠ [])
      (hname : ∀ x ∈ name, isNameChar x = true) :
      Written ⟨opening ++ (a ++ (scope ++ (b ++ (['.'] ++ (c ++ (name ++ (d ++ closing))))))),
        [scope, name]⟩

section Scope

theorem afterWord?_eq_some_iff {word text scope rest : List Char} :
    afterWord? word text = some (scope, rest) ↔ Spelling word scope ∧ text = scope ++ rest := by
  induction word generalizing text scope with
  | nil =>
    simp only [afterWord?, Option.some.injEq, Prod.mk.injEq, Spelling, List.forall₂_nil_left_iff]
    constructor
    · rintro ⟨rfl, rfl⟩
      exact ⟨rfl, rfl⟩
    · rintro ⟨rfl, rfl⟩
      exact ⟨rfl, rfl⟩
  | cons letter word ih =>
    cases text with
    | nil =>
      simp only [afterWord?, reduceCtorEq, false_iff, not_and]
      rintro (_ | ⟨_, _⟩)
      simp
    | cons c text =>
      rw [afterWord?]
      by_cases h : spells letter c = true
      · simp only [h, if_true, Option.map_eq_some_iff, Prod.exists, Prod.mk.injEq]
        constructor
        · rintro ⟨tail, rest, hrest, rfl, rfl⟩
          obtain ⟨hspelling, rfl⟩ := ih.mp hrest
          exact ⟨.cons h hspelling, rfl⟩
        · rintro ⟨hspelling, htext⟩
          cases hspelling with
          | @cons _ d _ tail hd htail =>
            cases htext
            exact ⟨tail, rest, ih.mpr ⟨htail, rfl⟩, rfl, rfl⟩
      · rw [if_neg h]
        simp only [reduceCtorEq, false_iff, not_and]
        intro hspelling htext
        cases hspelling with
        | cons hd htail =>
          cases htext
          exact h hd

theorem afterWord?_inputs_of_matrix {scope : List Char} (h : Spelling matrixWord scope)
    (rest : List Char) : afterWord? inputsWord (scope ++ rest) = none := by
  cases h with
  | @cons _ c _ tail hc htail =>
    have hne : spells 'i' c = false := by
      simp only [spells, Bool.or_eq_true, beq_iff_eq, Bool.and_eq_true] at hc
      rcases hc with (rfl | rfl) | ⟨hs, -⟩
      · decide
      · decide
      · exact absurd hs (by decide)
    rw [List.cons_append, inputsWord, afterWord?, hne]
    rfl

theorem afterScope?_eq_some_iff {text scope rest : List Char} :
    afterScope? text = some (scope, rest) ↔
      (Spelling inputsWord scope ∨ Spelling matrixWord scope) ∧ text = scope ++ rest := by
  rw [afterScope?, Option.or_eq_some_iff, afterWord?_eq_some_iff, afterWord?_eq_some_iff]
  constructor
  · rintro (⟨hscope, htext⟩ | ⟨-, hscope, htext⟩)
    · exact ⟨.inl hscope, htext⟩
    · exact ⟨.inr hscope, htext⟩
  · rintro ⟨hscope | hscope, rfl⟩
    · exact .inl ⟨hscope, rfl⟩
    · exact .inr ⟨afterWord?_inputs_of_matrix hscope rest, hscope, rfl⟩

end Scope

section Reading

theorem toNat_of_isUpper {c : Char} (h : c.isUpper = true) : 65 ≤ c.toNat ∧ c.toNat ≤ 90 :=
  of_decide_eq_true h

theorem toNat_of_isLower {c : Char} (h : c.isLower = true) : 97 ≤ c.toNat ∧ c.toNat ≤ 122 :=
  (Bool.and_eq_true_iff.mp h).imp of_decide_eq_true of_decide_eq_true

theorem toNat_of_isNameChar {c : Char} (h : isNameChar c = true) :
    0x2D ≤ c.toNat ∧ c.toNat ≤ 0x7A := by
  simp only [isNameChar, Bool.or_eq_true, beq_iff_eq] at h
  rcases h with (h | rfl) | rfl
  · rcases Bool.or_eq_true_iff.mp h with h | h
    · rcases Bool.or_eq_true_iff.mp h with h | h
      · have hrange := toNat_of_isUpper h
        omega
      · have hrange := toNat_of_isLower h
        omega
    · have hrange := toNat_of_isDigit h
      omega
  · decide
  · decide

theorem isBlank_of_isNameChar {c : Char} (h : isNameChar c = true) : isBlank c = false := by
  obtain ⟨hlow, hhigh⟩ := toNat_of_isNameChar h
  exact isBlank_of_visible (by omega) (by omega)

theorem isBlank_of_spells {letter c : Char} (hletter : letter ∈ inputsWord ++ matrixWord)
    (h : spells letter c = true) : isBlank c = false := by
  have hwords : (inputsWord ++ matrixWord).all (fun letter =>
      !isBlank letter && !isBlank letter.toUpper) = true := by decide
  have hboth := List.all_eq_true.mp hwords letter hletter
  simp only [Bool.and_eq_true, Bool.not_eq_true'] at hboth
  simp only [spells, Bool.or_eq_true, beq_iff_eq, Bool.and_eq_true] at h
  rcases h with (rfl | rfl) | ⟨-, rfl⟩
  · exact hboth.1
  · exact hboth.2
  · decide

theorem trimStart_scope {scope : List Char}
    (h : Spelling inputsWord scope ∨ Spelling matrixWord scope) (rest : List Char) :
    trimStart (scope ++ rest) = scope ++ rest := by
  rcases h with h | h
  · cases h with
    | cons hc _ => exact trimStart_cons (isBlank_of_spells (by decide) hc) _
  · cases h with
    | cons hc _ => exact trimStart_cons (isBlank_of_spells (by decide) hc) _

theorem trimStart_name {name : List Char} (hne : name ≠ []) (h : ∀ x ∈ name, isNameChar x = true)
    (rest : List Char) : trimStart (name ++ rest) = name ++ rest := by
  obtain ⟨x, tail, rfl⟩ := List.exists_cons_of_ne_nil hne
  exact trimStart_cons (isBlank_of_isNameChar (h x List.mem_cons_self)) _

theorem takeWhile_isNameChar {name gap : List Char} (h : ∀ x ∈ name, isNameChar x = true)
    (hgap : allBlank gap = true) (rest : List Char) :
    (name ++ (gap ++ (closing ++ rest))).takeWhile isNameChar = name := by
  rw [List.takeWhile_append_of_pos h]
  cases gap with
  | nil => exact List.append_nil name
  | cons x gap =>
    have hx : isBlank x = true := List.all_eq_true.mp hgap x List.mem_cons_self
    have hname : ¬ isNameChar x = true := fun hname => by simp [isBlank_of_isNameChar hname] at hx
    rw [List.cons_append, List.takeWhile_cons_of_neg hname, List.append_nil]

theorem dropWhile_isNameChar {name gap : List Char} (h : ∀ x ∈ name, isNameChar x = true)
    (hgap : allBlank gap = true) (rest : List Char) :
    (name ++ (gap ++ (closing ++ rest))).dropWhile isNameChar = gap ++ (closing ++ rest) := by
  have hsplit := List.takeWhile_append_dropWhile (p := isNameChar)
    (l := name ++ (gap ++ (closing ++ rest)))
  rw [takeWhile_isNameChar h hgap] at hsplit
  exact List.append_cancel_left hsplit

theorem read?_eq_some_iff {text scope name rest : List Char} :
    read? text = some ⟨scope, name, rest⟩ ↔
      ∃ whole, Written ⟨whole, [scope, name]⟩ ∧ text = whole ++ rest := by
  simp only [read?, Option.bind_eq_bind, Option.bind_eq_some_iff, Prod.exists,
    Option.ite_none_left_eq_some, Option.some.injEq, afterLiteral?_eq_some_iff,
    afterScope?_eq_some_iff, Parts.mk.injEq]
  constructor
  · rintro ⟨t, rfl, scope, u, ⟨hscope, ht⟩, v, hu, rest, hv, hne, rfl, rfl, rfl⟩
    obtain ⟨a, ha, hta⟩ := exists_eq_append_trimStart t
    obtain ⟨b, hb, hub⟩ := exists_eq_append_trimStart u
    obtain ⟨c, hc, hvc⟩ := exists_eq_append_trimStart v
    obtain ⟨d, hd, hvd⟩ := exists_eq_append_trimStart ((trimStart v).dropWhile isNameChar)
    refine ⟨_, .intro ha hb hc hd hscope hne fun x hx => List.mem_takeWhile_imp hx, ?_⟩
    have hname : v = c ++ ((trimStart v).takeWhile isNameChar ++ (d ++ (closing ++ rest))) := by
      rw [← hv, ← hvd, List.takeWhile_append_dropWhile]
      exact hvc
    rw [hta, ht, hub, hu]
    conv_lhs => rw [hname]
    simp only [List.append_assoc]
  · rintro ⟨whole, hwritten, rfl⟩
    cases hwritten with
    | @intro a _ b c _ d ha hb hc hd hscope hne hname =>
      have hafter : trimStart (c ++ (name ++ (d ++ (closing ++ rest)))) =
          name ++ (d ++ (closing ++ rest)) := by rw [trimStart_append hc, trimStart_name hne hname]
      simp only [List.append_assoc]
      refine ⟨_, rfl, scope, b ++ (['.'] ++ (c ++ (name ++ (d ++ (closing ++ rest))))), ⟨hscope, ?_⟩,
        c ++ (name ++ (d ++ (closing ++ rest))), ?_, rest, ?_, ?_, rfl, ?_, rfl⟩
      · rw [trimStart_append ha, trimStart_scope hscope]
      · rw [trimStart_append hb]
        exact trimStart_cons (by decide) _
      · rw [hafter, dropWhile_isNameChar hname hd, trimStart_append hd]
        exact trimStart_cons (by decide) _
      · rwa [hafter, takeWhile_isNameChar hname hd]
      · rw [hafter, takeWhile_isNameChar hname hd]

theorem groups_of_written {o : Occurrence} (h : Written o) :
    ∃ scope name, o.groups = [scope, name] := by
  cases h
  exact ⟨_, _, rfl⟩

theorem upTo_append (whole rest : List Char) : upTo (whole ++ rest) rest = whole := by
  simp [upTo]

theorem recognise_eq_some_iff {text : List Char} {o : Occurrence} :
    recognise text = some o ↔ Written o ∧ ∃ rest, text = o.whole ++ rest := by
  simp only [recognise, Option.map_eq_some_iff]
  constructor
  · rintro ⟨⟨scope, name, rest⟩, hread, rfl⟩
    obtain ⟨whole, hwritten, rfl⟩ := read?_eq_some_iff.mp hread
    rw [upTo_append]
    exact ⟨hwritten, rest, rfl⟩
  · rintro ⟨hwritten, rest, rfl⟩
    obtain ⟨whole, groups⟩ := o
    obtain ⟨scope, name, rfl⟩ := groups_of_written hwritten
    refine ⟨⟨scope, name, rest⟩, read?_eq_some_iff.mpr ⟨whole, hwritten, rfl⟩, ?_⟩
    rw [upTo_append]

end Reading

end WorkflowScript.Placeholder
