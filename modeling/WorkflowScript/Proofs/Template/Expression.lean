import WorkflowScript.Proofs.Line.Dollar

namespace WorkflowScript

open Placeholder

def HasExpression (text : String) : Prop := opening <:+: text.toList

instance (text : String) : Decidable (HasExpression text) :=
  inferInstanceAs (Decidable (opening <:+: text.toList))

section Text

theorem infix_append_of_notMem {front : List Char} (h : '$' ∉ front) (text : List Char) :
    opening <:+: front ++ text ↔ opening <:+: text := by
  induction front with
  | nil => rfl
  | cons c front ih =>
    simp only [List.mem_cons, not_or] at h
    rw [List.cons_append, List.infix_cons_iff, ih h.2]
    simp [opening, h.1]

theorem infix_append_of_head {tail : List Char} (h : tail.head? ≠ some '\x7b') (text : List Char) :
    opening <:+: text ++ tail ↔ opening <:+: text ∨ opening <:+: tail := by
  induction text with
  | nil => simp [opening]
  | cons c text ih =>
    -- across the joint the tail would have to go on with a brace
    have hprefix : opening <+: c :: (text ++ tail) ↔ opening <+: c :: text := by
      cases tail with
      | nil => rw [List.append_nil]
      | cons d tail =>
        have hd : ¬ '\x7b' = d := by simpa [eq_comm] using h
        match text with
        | [] => simp [opening, List.cons_prefix_cons, hd]
        | [e] => simp [opening, List.cons_prefix_cons, hd]
        | e :: f :: text => simp [opening, List.cons_prefix_cons]
    rw [List.cons_append, List.infix_cons_iff, ih, hprefix, List.infix_cons_iff, or_assoc]

variable {text front tail : String}

theorem hasExpression_append_of_notMem (h : '$' ∉ front.toList) (text : String) :
    HasExpression (front ++ text) ↔ HasExpression text := by
  rw [HasExpression, String.toList_append, infix_append_of_notMem h]
  rfl

theorem hasExpression_append_of_head (h : tail.toList.head? ≠ some '\x7b') (text : String) :
    HasExpression (text ++ tail) ↔ HasExpression text ∨ HasExpression tail := by
  rw [HasExpression, String.toList_append, infix_append_of_head h]
  rfl

theorem hasExpression_intercalate (parts : List String) :
    HasExpression (" ".intercalate parts) ↔ ∃ part ∈ parts, HasExpression part := by
  induction parts with
  | nil => simp; decide
  | cons part parts ih =>
    cases parts with
    | nil => simp
    | cons next parts =>
      rw [String.intercalate_cons_cons, String.append_assoc,
        hasExpression_append_of_head (by simp), hasExpression_append_of_notMem (by simp), ih]
      simp

theorem not_hasExpression_of_notMem (h : '$' ∉ text.toList) : ¬ HasExpression text := by
  rintro ⟨before, after, heq⟩
  exact h (heq ▸ by simp [opening])

theorem not_infix_of_numbered {text : List Char} (h : Line.Numbered text) : ¬ opening <:+: text := by
  rintro ⟨before, after, rfl⟩
  rw [List.append_assoc] at h
  have hstart := (Line.numbered_of_suffix h (List.suffix_append _ _)).1 rfl
  cases hstart

theorem not_hasExpression_of_numbered (h : Line.Numbered text.toList) : ¬ HasExpression text :=
  not_infix_of_numbered h

theorem dollar_notMem_toString (n : Nat) : '$' ∉ (toString n).toList := by
  intro hmem
  rw [Nat.toString_eq_repr, Nat.toList_repr] at hmem
  exact absurd (Nat.isDigit_of_mem_toDigits (by decide) (by decide) hmem) (by decide)

end Text

end WorkflowScript
