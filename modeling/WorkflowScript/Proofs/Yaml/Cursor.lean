import WorkflowScript.Proofs.Text.Bytes
import WorkflowScript.Yaml.Cursor

namespace WorkflowScript.Yaml

theorem Cursor.skip_append {front : List Char} (h : ∀ c ∈ front, isBreak c = false) (rest : List Char)
    (offset line column : Nat) :
    Cursor.skip front.length ⟨front ++ rest, offset, line, column⟩ =
      ⟨rest, offset + Text.bytes front, line, column + front.length⟩ := by
  induction front generalizing offset column with
  | nil => rfl
  | cons c front ih =>
    have hc : isBreak c = false := h c List.mem_cons_self
    have hfront : ∀ d ∈ front, isBreak d = false := fun d hd => h d (List.mem_cons_of_mem c hd)
    have hnext : Cursor.next ⟨c :: (front ++ rest), offset, line, column⟩ =
        ⟨front ++ rest, offset + c.utf8Size, line, column + 1⟩ := by
      rw [Cursor.next]
      simp [hc]
    rw [List.length_cons, List.cons_append, Cursor.skip, hnext, ih hfront]
    simp [Text.bytes, Nat.add_assoc, Nat.add_comm front.length 1]

theorem isBreak_of_isGap {c : Char} (h : isGap c = false) : isBreak c = false :=
  (Bool.or_eq_false_iff.mp h).2

theorem isSpace_of_isGap {c : Char} (h : isGap c = false) : isSpace c = false :=
  (Bool.or_eq_false_iff.mp h).1

theorem isGap_of_isSpace {c : Char} (h : isSpace c = true) : isGap c = true := by
  rw [isGap, h, Bool.true_or]

theorem isBreak_of_isSpace {c : Char} (h : isSpace c = true) : isBreak c = false := by
  simp only [isSpace, Bool.or_eq_true, beq_iff_eq] at h
  rcases h with rfl | rfl <;> decide

section Span

variable {front rest : List Char} {p : Char → Bool} (h : ∀ c ∈ front, p c = true)
  (hrest : rest.head?.all (!p ·) = true) (hfront : ∀ c ∈ front, isBreak c = false)
include h hrest hfront

theorem Cursor.span_append (offset line column : Nat) :
    Cursor.span p ⟨front ++ rest, offset, line, column⟩ =
      (front, ⟨rest, offset + Text.bytes front, line, column + front.length⟩) := by
  have hstop : rest.takeWhile p = [] := by
    cases rest with
    | nil => rfl
    | cons d rest =>
      have hd : ¬ p d = true := by simpa using hrest
      exact List.takeWhile_cons_of_neg hd
  have htaken : (front ++ rest).takeWhile p = front := by
    rw [List.takeWhile_append_of_pos h, hstop, List.append_nil]
  rw [Cursor.span]
  simp only [htaken, Cursor.skip_append hfront]

theorem Cursor.skipWhile_append (offset line column : Nat) :
    Cursor.skipWhile p ⟨front ++ rest, offset, line, column⟩ =
      ⟨rest, offset + Text.bytes front, line, column + front.length⟩ := by
  rw [Cursor.skipWhile, Cursor.span_append h hrest hfront]

end Span

end WorkflowScript.Yaml
