import Mathlib.Algebra.Ring.Parity
import WorkflowScript.Proofs.Fragment.ShellCommands
import WorkflowScript.Proofs.Line.Continuation

namespace WorkflowScript.Line

open Text Fragment

def backslashes (line : List Char) : Nat := (line.reverse.takeWhile (· == '\\')).length

section Count

variable {head line : List Char} {c : Char}

theorem isContinued_iff : isContinued line = true ↔ Odd (backslashes line) := by
  rw [isContinued, beq_iff_eq, Nat.odd_iff, backslashes]

theorem isContinued_eq_false_iff : isContinued line = false ↔ Even (backslashes line) := by
  rw [← Bool.not_eq_true, isContinued_iff, Nat.not_odd_iff_even]

theorem backslashes_concat_of_ne (h : c ≠ '\\') (head : List Char) : backslashes (head ++ [c]) = 0 := by
  rw [backslashes, List.reverse_append, List.reverse_singleton, List.singleton_append,
    List.takeWhile_cons_of_neg (by simpa using h), List.length_nil]

theorem backslashes_concat (head : List Char) : backslashes (head ++ ['\\']) = backslashes head + 1 := by
  rw [backslashes, List.reverse_append, List.reverse_singleton, List.singleton_append,
    List.takeWhile_cons_of_pos (by simp), List.length_cons, backslashes]

theorem backslashes_eq_zero_iff : backslashes line = 0 ↔ line.getLast? ≠ some '\\' := by
  rcases line.eq_nil_or_concat with rfl | ⟨head, c, rfl⟩
  · exact iff_of_true rfl (by simp)
  · rw [List.concat_eq_append, List.getLast?_concat, ne_eq, Option.some.injEq]
    by_cases hc : c = '\\'
    · rw [hc, backslashes_concat]
      simp
    · exact iff_of_true (backslashes_concat_of_ne hc head) hc

theorem backslashes_eq_one_iff :
    backslashes line = 1 ↔ ∃ head, line = head ++ ['\\'] ∧ head.getLast? ≠ some '\\' := by
  constructor
  · intro h
    have hlast : ¬ line.getLast? ≠ some '\\' := fun hne => by
      rw [backslashes_eq_zero_iff.mpr hne] at h
      cases h
    obtain ⟨head, rfl⟩ := List.getLast?_eq_some_iff.mp (Classical.not_not.mp hlast)
    rw [backslashes_concat] at h
    exact ⟨head, rfl, backslashes_eq_zero_iff.mp (Nat.succ_injective h)⟩
  · rintro ⟨head, rfl, hhead⟩
    rw [backslashes_concat, backslashes_eq_zero_iff.mpr hhead]

end Count

section Rewritten

variable {line : List Char}

theorem rewriteBackslash_of_one (h : backslashes line = 1) :
    rewriteBackslash line = line.dropLast ++ [continuationMark] := by
  obtain ⟨head, rfl, hhead⟩ := backslashes_eq_one_iff.mp h
  rw [rewriteBackslash_single hhead, List.dropLast_concat]

theorem rewriteBackslash_of_ne_one (h : backslashes line ≠ 1) : rewriteBackslash line = line := by
  refine rewriteBackslash_of_other fun head hline => ?_
  by_contra hhead
  exact h (backslashes_eq_one_iff.mpr ⟨head, hline, hhead⟩)

theorem endsOpen_iff : EndsOpen line ↔ line.getLast? = some continuationMark ∨ backslashes line = 1 := by
  rw [backslashes_eq_one_iff]
  constructor
  · intro h
    cases h with
    | mark head => exact .inl List.getLast?_concat
    | @backslash head hhead => exact .inr ⟨head, rfl, hhead⟩
  · rintro (hmark | ⟨head, rfl, hhead⟩)
    · obtain ⟨head, rfl⟩ := List.getLast?_eq_some_iff.mp hmark
      exact .mark head
    · exact .backslash hhead

theorem endsOpen_iff_isContinued (hmark : line.getLast? ≠ some continuationMark)
    (hrun : isContinued line = true → backslashes line = 1) : EndsOpen line ↔ isContinued line = true := by
  rw [endsOpen_iff, or_iff_right hmark]
  refine ⟨fun hone => ?_, hrun⟩
  rw [isContinued_iff, hone]
  exact odd_one

end Rewritten

section Unmarked

variable {bindings : Bindings} {continuing after : Continuing} {raw line : List Char}

def LeavesText (bindings : Bindings) (raw text : List Char) : Prop :=
  ∃ resolved, Placeholder.resolve bindings (stripComment raw) = .ok resolved ∧ text = stripSummary resolved

theorem ends_of_transform (h : transform .batch bindings continuing raw = .ok (.line line, after)) :
    ∃ text, LeavesText bindings raw text ∧
      ((after = true ∧ line.getLast? = some continuationMark ∧ EndsOpen text) ∨
        (after = false ∧ errorJump <:+ line ∧ ¬ EndsOpen text)) := by
  have hbecomes := transform_eq_ok_iff.mp h
  generalize hemitted : Emitted.line line = emitted at hbecomes
  cases hbecomes with
  | elided helided => cases hemitted
  | blank hcomes hblank => cases hemitted
  | @line text hcomes hopen hnumbered =>
    cases hemitted
    obtain ⟨-, resolved, hresolved, rfl⟩ := hcomes
    have hends := dispatched_ends continuing hopen
    simp only [← Bool.not_eq_true (goesOn _), goesOn_rewrite] at hends
    exact ⟨_, ⟨resolved, hresolved, rfl⟩, hends⟩

theorem leavesText_of_notMem (hcomment : '#' ∉ raw) (hdollar : '$' ∉ raw) :
    LeavesText bindings raw (trimEnd raw) := by
  have hfree : '$' ∉ trimEnd raw := fun hmem => hdollar ((prefix_trimEnd raw).subset hmem)
  refine ⟨trimEnd raw, ?_, ?_⟩
  · rw [stripComment_of_notMem hcomment, resolve_of_notMem hfree]
  · rw [stripSummary_of_notMem hfree, trimEnd_trimEnd]

theorem exists_line_of_notMem (hcomment : '#' ∉ raw) (hdollar : '$' ∉ raw) (hopen : allBlank raw = false) :
    ∃ line after, transform .batch bindings continuing raw = .ok (.line line, after) := by
  obtain ⟨resolved, hresolved, htext⟩ := @leavesText_of_notMem bindings raw hcomment hdollar
  have hkept := isElided_stripComment_of_notMem hcomment hopen
  have hline : allBlank (rewrite .batch resolved) = false := by
    rw [allBlank_rewrite, ← htext, allBlank_trimEnd, hopen]
  have hnumbered : Numbered (stripSummary resolved) := by
    rw [← htext]
    exact numbered_trimEnd (numbered_of_notMem hdollar)
  exact ⟨_, _, transform_eq_ok_iff.mpr
    (.line ⟨hkept, resolved, hresolved, rfl⟩ hline ((numbered_send .batch continuing resolved).mpr hnumbered))⟩

end Unmarked

theorem continued_as_in_shell :
    (∀ line, (isContinued line = false → rewriteBackslash line = line) ∧
      (backslashes line = 1 → rewriteBackslash line = line.dropLast ++ [continuationMark])) ∧
    (∀ bindings continuing raw line after,
      transform .batch bindings continuing raw = .ok (.line line, after) → ∃ text, LeavesText bindings raw text ∧
        (text.getLast? = some continuationMark → after = true) ∧
        (text.getLast? ≠ some continuationMark → (isContinued text = true → backslashes text = 1) →
          after = isContinued text) ∧
        ((after = true ∧ line.getLast? = some continuationMark) ∨ (after = false ∧ errorJump <:+ line))) ∧
    ∀ bindings continuing raw, '#' ∉ raw → '$' ∉ raw → allBlank raw = false →
      LeavesText bindings raw (trimEnd raw) ∧
        ∃ line after, transform .batch bindings continuing raw = .ok (.line line, after) := by
  refine ⟨fun line => ⟨fun heven => ?_, rewriteBackslash_of_one⟩, ?_, ?_⟩
  · apply rewriteBackslash_of_ne_one
    intro hone
    rw [isContinued_eq_false_iff, hone] at heven
    exact Nat.not_even_one heven
  · intro bindings continuing raw line after h
    obtain ⟨text, htext, hends⟩ := ends_of_transform h
    have hafter : after = true ↔ EndsOpen text := by
      rcases hends with ⟨rfl, -, hopen⟩ | ⟨rfl, -, hopen⟩
      · exact iff_of_true rfl hopen
      · exact iff_of_false Bool.false_ne_true hopen
    refine ⟨text, htext, ?_, ?_, ?_⟩
    · exact fun hmark => hafter.mpr (endsOpen_iff.mpr (.inl hmark))
    · intro hmark hrun
      rw [Bool.eq_iff_iff, hafter, endsOpen_iff_isContinued hmark hrun]
    · exact hends.imp (fun h => ⟨h.1, h.2.1⟩) fun h => ⟨h.1, h.2.1⟩
  · intro bindings continuing raw hcomment hdollar hopen
    exact ⟨leavesText_of_notMem hcomment hdollar, exists_line_of_notMem hcomment hdollar hopen⟩

def paired : List Char := "echo a\\\\".toList

def guarded : List Char := "     echo a\\\\  || CALL :ERROR".toList

theorem completed_of_paired : rewriteBackslash paired = paired ∧
    transform .batch noBindings true paired = .ok (.line guarded, false) ∧ errorJump <:+ guarded ∧
      LeavesText noBindings paired (trimEnd paired) := by
  obtain ⟨hrewrite, hends, hfree⟩ := continued_as_in_shell
  have hline : transform .batch noBindings true paired = .ok (.line guarded, false) := by decide +kernel
  obtain ⟨text, -, -, -, hopen | hjump⟩ := hends _ _ _ _ _ hline
  · cases hopen.1
  · have hleaves := (hfree noBindings true paired (by decide) (by decide) (by decide)).1
    exact ⟨(hrewrite paired).1 (by decide), hline, hjump.2, hleaves⟩

def marked : List Char := "echo a^".toList

def tripled : List Char := "echo a\\\\\\".toList

theorem continued_unlike_in_shell :
    (isContinued marked = false ∧
      transform .batch noBindings false marked = .ok (.line "CALL echo a^".toList, true)) ∧
    isContinued tripled = true ∧ rewriteBackslash tripled = tripled := by
  decide +kernel

end WorkflowScript.Line
