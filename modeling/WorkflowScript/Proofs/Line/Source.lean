import WorkflowScript.Proofs.Line.Transform

namespace WorkflowScript.Line

open Text

variable {line line' gap : List Char}

theorem beforeComment_of_allBlank (h : allBlank gap = true) (escaped : Bool) :
    beforeComment escaped gap = gap := by
  induction gap generalizing escaped with
  | nil => rfl
  | cons c gap ih =>
    have hhash : '#' ∉ c :: gap := notMem_of_allBlank h (by decide)
    have hc : c ≠ '#' := fun heq => hhash (heq ▸ List.mem_cons_self)
    have hgap : allBlank gap = true := (Bool.and_eq_true_iff.mp h).2
    rw [beforeComment, if_neg fun hmark => hc hmark.1, ih hgap]

theorem trimEnd_beforeComment_append (h : allBlank gap = true) (hgap : '\n' ∉ gap) (line : List Char)
    (escaped : Bool) :
    trimEnd (beforeComment escaped (line ++ gap)) = trimEnd (beforeComment escaped line) := by
  induction line generalizing escaped with
  | nil =>
    rw [List.nil_append, beforeComment_of_allBlank h]
    exact (trimEnd_eq_nil_iff gap).mpr h
  | cons c line ih =>
    have hbehind : '\n' ∉ line ++ gap ↔ '\n' ∉ line := by simp [hgap]
    simp only [List.cons_append, beforeComment, hbehind]
    split
    · rfl
    · rw [trimEnd, trimEnd, ih]

theorem stripComment_trimEnd (h : '\n' ∉ line) : stripComment (trimEnd line) = stripComment line := by
  obtain ⟨gap, hblank, hline⟩ := exists_eq_trimEnd_append line
  have hgap : '\n' ∉ gap := fun hmem => h (hline ▸ List.mem_append_right _ hmem)
  have happend := trimEnd_beforeComment_append hblank hgap (trimEnd line) false
  rw [← hline] at happend
  exact happend.symm

theorem transform_congr_stripComment (h : stripComment line = stripComment line') (target : Target)
    (bindings : Bindings) (state : Continuing) :
    transform target bindings state line = transform target bindings state line' := by
  rw [transform_eq, transform_eq, h]

theorem transform_congr_trimEnd (hline : '\n' ∉ line) (hline' : '\n' ∉ line')
    (h : trimEnd line = trimEnd line') (target : Target) (bindings : Bindings) (state : Continuing) :
    transform target bindings state line = transform target bindings state line' := by
  apply transform_congr_stripComment
  rw [← stripComment_trimEnd hline, h, stripComment_trimEnd hline']

theorem beforeComment_hash (h : allBlank gap = true) {rest : List Char} (hrest : '\n' ∉ rest) :
    beforeComment false (gap ++ '#' :: rest) = gap := by
  induction gap with
  | nil => rw [List.nil_append, beforeComment, if_pos ⟨rfl, rfl, hrest⟩]
  | cons c gap ih =>
    obtain ⟨hc, hgap⟩ := Bool.and_eq_true_iff.mp h
    have hhash : c ≠ '#' := by
      rintro rfl
      exact absurd hc (by decide)
    -- a blank is no backslash, so it does not protect the mark behind it
    have hfree : (c == '\\') = false := by
      rw [beq_eq_false_iff_ne]
      rintro rfl
      exact absurd hc (by decide)
    rw [List.cons_append, beforeComment, if_neg fun hmark => hhash hmark.1, hfree, ih hgap]

theorem isElided_iff : isElided line = true ↔
    allBlank line = true ∨ ∃ gap rest, allBlank gap = true ∧ line = gap ++ '#' :: rest := by
  obtain ⟨gap, hgap, hline⟩ := exists_eq_append_trimStart line
  rw [isElided]
  cases hstart : trimStart line with
  | nil =>
    have hblank : allBlank line = true := (trimStart_eq_nil_iff line).mp hstart
    simp [hblank]
  | cons c rest =>
    have hopen : ¬ allBlank line = true := by
      rw [← trimStart_eq_nil_iff, hstart]
      exact List.cons_ne_nil c rest
    constructor
    · intro hc
      have hhash : c = '#' := eq_of_beq hc
      rw [hstart, hhash] at hline
      exact .inr ⟨gap, rest, hgap, hline⟩
    · rintro (hblank | ⟨front, back, hfront, rfl⟩)
      · exact absurd hblank hopen
      · rw [trimStart_append hfront, trimStart_cons (by decide)] at hstart
        cases hstart
        rfl

theorem stripComment_of_isElided (h : isElided line = true) (hline : '\n' ∉ line) :
    stripComment line = [] := by
  rw [stripComment, trimEnd_eq_nil_iff]
  rcases isElided_iff.mp h with hblank | ⟨gap, rest, hgap, rfl⟩
  · rw [beforeComment_of_allBlank hblank]
    exact hblank
  · have hrest : '\n' ∉ rest := by
      intro hmem
      exact hline (List.mem_append_right gap (List.mem_cons_of_mem '#' hmem))
    rw [beforeComment_hash hgap hrest]
    exact hgap

theorem transform_of_isElided (h : isElided line = true) (hline : '\n' ∉ line) (target : Target)
    (bindings : Bindings) (state : Continuing) :
    transform target bindings state line = .ok (.elided, state) := by
  rw [transform_eq, stripComment_of_isElided h hline]
  rfl

end WorkflowScript.Line
