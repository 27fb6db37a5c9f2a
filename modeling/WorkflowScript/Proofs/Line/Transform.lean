import WorkflowScript.Proofs.Line.Rewrite
import WorkflowScript.Proofs.Template.Bound

namespace WorkflowScript.Line

open Text Outcome

def send (target : Target) (continuing : Continuing) (line : List Char) : List Char × Continuing :=
  match target with
  | .shell => (line, continuing)
  | .batch => dispatch continuing line

def settle (target : Target) (continuing : Continuing) (resolved : List Char) :
    Except CompileError (Emitted × Continuing) :=
  if allBlank (stripSummary resolved) = true then .ok (.blank, continuing)
  else
    let sent := send target continuing (rewrite target resolved)
    if Numbered (stripSummary resolved) then .ok (.line sent.1, sent.2)
    else .error (.unsupportedExpression (.ofList (withoutPositional sent.1)))

theorem numbered_send (target : Target) (continuing : Continuing) (line : List Char) :
    Numbered (send target continuing (rewrite target line)).1 ↔ Numbered (stripSummary line) := by
  rw [← numbered_rewrite target]
  cases target with
  | shell => rfl
  | batch => exact numbered_dispatch continuing _

theorem transform_eq (target : Target) (bindings : Bindings) (continuing : Continuing)
    (raw : List Char) :
    transform target bindings continuing raw =
      if isElided (stripComment raw) = true then .ok (.elided, continuing)
      else Placeholder.resolve bindings (stripComment raw) >>= settle target continuing := by
  rw [transform]
  split
  · rfl
  cases Placeholder.resolve bindings (stripComment raw) with
  | error e => rfl
  | ok resolved =>
    change (if allBlank (rewrite target resolved) = true then _ else _) = settle target continuing resolved
    rw [settle, allBlank_rewrite]
    split
    · rfl
    · change (checkResolved (send target continuing (rewrite target resolved)).1 >>= fun _ =>
        Except.ok (Emitted.line (send target continuing (rewrite target resolved)).1,
          (send target continuing (rewrite target resolved)).2)) = _
      rw [checkResolved_eq, if_congr (numbered_send target continuing resolved) rfl rfl]
      split <;> rfl

theorem transform_of_resolve {target : Target} {bindings : Bindings} {continuing : Continuing}
    {raw resolved : List Char} (hkept : isElided (stripComment raw) = false)
    (h : Placeholder.resolve bindings (stripComment raw) = .ok resolved) :
    transform target bindings continuing raw = settle target continuing resolved := by
  rw [transform_eq, if_neg (Bool.eq_false_iff.mp hkept), h]
  rfl

theorem numbered_of_allBlank {line : List Char} (h : allBlank line = true) : Numbered line :=
  numbered_of_notMem (notMem_of_allBlank h (by decide))

theorem numbered_trimEnd_iff (text : List Char) : Numbered (trimEnd text) ↔ Numbered text := by
  refine ⟨fun h => ?_, numbered_trimEnd⟩
  obtain ⟨gap, hgap, htext⟩ := exists_eq_trimEnd_append text
  have hdigit : startsWithDigit gap = false := by
    cases gap with
    | nil => rfl
    | cons c gap =>
      rw [startsWithDigit, Bool.eq_false_iff]
      exact fun hc => notMem_of_allBlank hgap (isBlank_of_isDigit hc) List.mem_cons_self
  rw [htext]
  exact (numbered_append_right (notMem_of_allBlank hgap (by decide)) hdigit _).mpr h

theorem exists_settle_iff {target : Target} {continuing : Continuing} {resolved : List Char} :
    (∃ out, settle target continuing resolved = .ok out) ↔ Numbered (stripSummary resolved) := by
  rw [settle]
  split
  · next hblank => exact iff_of_true ⟨_, rfl⟩ (numbered_of_allBlank hblank)
  · by_cases h : Numbered (stripSummary resolved)
    · simp [h]
    · simp [h]

theorem numbered_of_transform_ok {target : Target} {bindings : Bindings} {continuing : Continuing}
    {raw : List Char} {out : Emitted × Continuing}
    (h : transform target bindings continuing raw = .ok out) :
    ∀ line ∈ out.1.toLines, Numbered line.toList := by
  rw [transform_eq] at h
  split at h
  · cases h
    simp [Emitted.toLines]
  · obtain ⟨resolved, -, hsettle⟩ := bind_eq_ok_iff.mp h
    rw [settle] at hsettle
    split at hsettle
    · cases hsettle
      simp [Emitted.toLines, Numbered]
    · split at hsettle
      · next hnumbered =>
        cases hsettle
        simpa [Emitted.toLines] using (numbered_send target continuing resolved).mpr hnumbered
      · cases hsettle

theorem exists_transform_iff {target : Target} {bindings : Bindings} {continuing : Continuing}
    {raw : List Char} :
    (∃ out, transform target bindings continuing raw = .ok out) ↔
      (isElided (stripComment raw) = false → Placeholder.AllBound bindings (stripComment raw) ∧
        Numbered (stripSummary (Placeholder.substitute bindings (stripComment raw)))) := by
  rw [transform_eq]
  by_cases h : isElided (stripComment raw) = true
  · simp [h]
  · rw [if_neg h]
    have hopen : isElided (stripComment raw) = false := Bool.not_eq_true _ ▸ h
    constructor
    · rintro ⟨out, hout⟩ -
      obtain ⟨resolved, hresolved, hsettle⟩ := bind_eq_ok_iff.mp hout
      obtain ⟨hbound, rfl⟩ := Placeholder.resolve_eq_ok_iff.mp hresolved
      exact ⟨hbound, exists_settle_iff.mp ⟨out, hsettle⟩⟩
    · intro hline
      obtain ⟨hbound, hnumbered⟩ := hline hopen
      obtain ⟨out, hout⟩ := exists_settle_iff.mpr hnumbered
      exact ⟨out, bind_eq_ok_iff.mpr ⟨_, Placeholder.resolve_eq_ok_iff.mpr ⟨hbound, rfl⟩, hout⟩⟩

end WorkflowScript.Line
