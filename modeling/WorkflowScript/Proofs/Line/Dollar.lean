import WorkflowScript.Proofs.Text.Blank
import WorkflowScript.Proofs.Text.Pieces
import WorkflowScript.Script.Line

namespace WorkflowScript.Line

open Text

def startsWithDigit : List Char → Bool
  | [] => false
  | c :: _ => c.isDigit

def Numbered : List Char → Prop
  | [] => True
  | c :: line => (c = '$' → startsWithDigit line = true) ∧ Numbered line

instance decidableNumbered : (line : List Char) → Decidable (Numbered line)
  | [] => .isTrue trivial
  | _ :: line =>
    have := decidableNumbered line
    inferInstanceAs (Decidable (_ ∧ _))

theorem ne_dollar_of_isDigit {d : Char} (h : d.isDigit = true) : d ≠ '$' := by
  rintro rfl
  exact absurd h (by decide)

theorem positional_number {d : Char} (hd : d.isDigit = true) (line : List Char) :
    positional ('$' :: d :: line) = some ⟨['$', d], [[d]]⟩ := by
  rw [positional, if_pos hd]

theorem positional_eq_none {c : Char} {line : List Char} (h : c = '$' → startsWithDigit line = false) :
    positional (c :: line) = none := by
  unfold positional
  split
  · next d rest heq =>
    cases heq
    have hd : d.isDigit = false := h rfl
    rw [if_neg (by rw [hd]; exact Bool.false_ne_true)]
  · rfl

theorem positional_induction {P : List Char → Prop} (nil : P [])
    (number : ∀ d line, d.isDigit = true → P line → P ('$' :: d :: line))
    (plain : ∀ c line, (c = '$' → startsWithDigit line = false) → P line → P (c :: line)) :
    ∀ line, P line
  | [] => nil
  | [c] => plain c [] (fun _ => rfl) nil
  | c :: d :: line => by
    by_cases h : c = '$' ∧ d.isDigit = true
    · obtain ⟨rfl, hd⟩ := h
      exact number d line hd (positional_induction nil number plain line)
    · refine plain c (d :: line) ?_ (positional_induction nil number plain (d :: line))
      rintro rfl
      simpa [startsWithDigit] using h

section Check

theorem withoutPositional_number {d : Char} (hd : d.isDigit = true) (line : List Char) :
    withoutPositional ('$' :: d :: line) = withoutPositional line := by
  rw [withoutPositional, replaceAll_cons_of_some (positional_number hd line)]
  rfl

theorem withoutPositional_plain {c : Char} {line : List Char}
    (h : c = '$' → startsWithDigit line = false) :
    withoutPositional (c :: line) = c :: withoutPositional line :=
  replaceAll_cons_of_none (positional_eq_none h)

theorem numbered_number {d : Char} (hd : d.isDigit = true) (line : List Char) :
    Numbered ('$' :: d :: line) ↔ Numbered line := by
  simp [Numbered, startsWithDigit, hd, ne_dollar_of_isDigit hd]

theorem numbered_cons_of_ne {c : Char} (h : c ≠ '$') (line : List Char) :
    Numbered (c :: line) ↔ Numbered line := by
  simp [Numbered, h]

theorem dollar_mem_withoutPositional_iff (line : List Char) :
    '$' ∈ withoutPositional line ↔ ¬ Numbered line := by
  induction line using positional_induction with
  | nil => simp [withoutPositional, replaceAll_nil, Numbered]
  | number d line hd ih => rw [withoutPositional_number hd, numbered_number hd, ih]
  | plain c line h ih =>
    rw [withoutPositional_plain h]
    by_cases hc : c = '$'
    · subst hc
      simp [Numbered, h rfl]
    · rw [List.mem_cons, ih, numbered_cons_of_ne hc, or_iff_right (Ne.symm hc)]

theorem checkResolved_eq (line : List Char) :
    checkResolved line = if Numbered line then .ok ()
      else .error (.unsupportedExpression (.ofList (withoutPositional line))) := by
  rw [checkResolved]
  by_cases h : Numbered line
  · rw [if_pos h, if_neg fun hmem => (dollar_mem_withoutPositional_iff line).mp hmem h]
  · rw [if_neg h, if_pos ((dollar_mem_withoutPositional_iff line).mpr h)]

theorem numbered_of_notMem {line : List Char} (h : '$' ∉ line) : Numbered line := by
  induction line with
  | nil => trivial
  | cons c line ih =>
    simp only [List.mem_cons, not_or] at h
    exact (numbered_cons_of_ne (Ne.symm h.1) line).mpr (ih h.2)

theorem numbered_append_left {front : List Char} (h : '$' ∉ front) (line : List Char) :
    Numbered (front ++ line) ↔ Numbered line := by
  induction front with
  | nil => rfl
  | cons c front ih =>
    simp only [List.mem_cons, not_or] at h
    rw [List.cons_append, numbered_cons_of_ne (Ne.symm h.1), ih h.2]

theorem numbered_append_right {tail : List Char} (h : '$' ∉ tail)
    (hdigit : startsWithDigit tail = false) (line : List Char) :
    Numbered (line ++ tail) ↔ Numbered line := by
  induction line with
  | nil => exact iff_of_true (numbered_of_notMem h) trivial
  | cons c line ih =>
    have hstart : startsWithDigit (line ++ tail) = startsWithDigit line := by
      cases line with
      | nil => rw [List.nil_append, hdigit]; rfl
      | cons d line => rfl
    rw [List.cons_append, Numbered, Numbered, ih, hstart]

end Check

section Trim

theorem numbered_of_suffix {line part : List Char} (h : Numbered line) (hpart : part <:+ line) :
    Numbered part := by
  obtain ⟨front, rfl⟩ := hpart
  induction front with
  | nil => exact h
  | cons c front ih => exact ih h.2

theorem startsWithDigit_trimEnd {line : List Char} (h : startsWithDigit line = true) :
    startsWithDigit (trimEnd line) = true := by
  cases line with
  | nil => cases h
  | cons c line =>
    rw [trimEnd]
    cases trimEnd line with
    | nil =>
      change startsWithDigit (if isBlank c = true then [] else [c]) = true
      rw [isBlank_of_isDigit h, if_neg Bool.false_ne_true]
      exact h
    | cons d kept => exact h

theorem numbered_trimEnd {line : List Char} (h : Numbered line) : Numbered (trimEnd line) := by
  induction line with
  | nil => trivial
  | cons c line ih =>
    -- the digit behind a `$` is not blank, so trimming stops there at the latest
    have hkept : Numbered (c :: trimEnd line) := ⟨fun hc => startsWithDigit_trimEnd (h.1 hc), ih h.2⟩
    rw [trimEnd]
    cases htrim : trimEnd line with
    | nil =>
      rw [htrim] at hkept
      change Numbered (if isBlank c = true then [] else [c])
      split
      · trivial
      · exact hkept
    | cons d kept => rwa [htrim] at hkept

theorem numbered_trimStart {line : List Char} (h : Numbered line) : Numbered (trimStart line) :=
  numbered_of_suffix h (List.dropWhile_suffix _)

end Trim

section Rewrite

theorem rewritePositional_number {d : Char} (hd : d.isDigit = true) (line : List Char) :
    rewritePositional ('$' :: d :: line) = '%' :: d :: rewritePositional line := by
  rw [rewritePositional, replaceAll_cons_of_some (positional_number hd line)]
  rfl

theorem rewritePositional_plain {c : Char} {line : List Char}
    (h : c = '$' → startsWithDigit line = false) :
    rewritePositional (c :: line) = c :: rewritePositional line :=
  replaceAll_cons_of_none (positional_eq_none h)

theorem rewritePositional_nil : rewritePositional [] = [] := replaceAll_nil _ _

theorem startsWithDigit_rewritePositional (line : List Char) :
    startsWithDigit (rewritePositional line) = startsWithDigit line := by
  induction line using positional_induction with
  | nil => rw [rewritePositional_nil]
  | number d line hd ih =>
    rw [rewritePositional_number hd]
    rfl
  | plain c line h ih =>
    rw [rewritePositional_plain h]
    rfl

theorem numbered_rewritePositional (line : List Char) :
    Numbered (rewritePositional line) ↔ Numbered line := by
  induction line using positional_induction with
  | nil => rw [rewritePositional_nil]
  | number d line hd ih =>
    rw [rewritePositional_number hd, numbered_number hd, numbered_cons_of_ne (by decide),
      numbered_cons_of_ne (ne_dollar_of_isDigit hd), ih]
  | plain c line h ih =>
    rw [rewritePositional_plain h, Numbered, Numbered, ih, startsWithDigit_rewritePositional]

theorem rewritePositional_of_notMem {line : List Char} (h : '$' ∉ line) :
    rewritePositional line = line := by
  induction line with
  | nil => exact rewritePositional_nil
  | cons c line ih =>
    simp only [List.mem_cons, not_or] at h
    rw [rewritePositional_plain fun hc => absurd hc.symm h.1, ih h.2]

theorem rewritePositional_eq_self {line : List Char} (h : '%' ∉ rewritePositional line) :
    rewritePositional line = line := by
  induction line using positional_induction with
  | nil => exact rewritePositional_nil
  | number d line hd ih =>
    rw [rewritePositional_number hd] at h
    exact absurd List.mem_cons_self h
  | plain c line hc ih =>
    rw [rewritePositional_plain hc] at h ⊢
    rw [ih fun hmem => h (List.mem_cons_of_mem c hmem)]

theorem allBlank_rewritePositional (line : List Char) :
    allBlank (rewritePositional line) = allBlank line := by
  induction line using positional_induction with
  | nil => rw [rewritePositional_nil]
  | number d line hd ih =>
    rw [rewritePositional_number hd]
    rfl
  | plain c line h ih =>
    rw [rewritePositional_plain h, allBlank, List.all_cons, ← allBlank, ih]
    rfl

end Rewrite

end WorkflowScript.Line
