import WorkflowScript.Proofs.Line.Transform

namespace WorkflowScript

inductive SameCause : CompileError → CompileError → Prop
  | same (e : CompileError) : SameCause e e
  | expression (line line' : String) :
      SameCause (.unsupportedExpression line) (.unsupportedExpression line')

namespace Line

open Text Outcome

inductive SameEmitted : Emitted → Emitted → Prop
  | elided : SameEmitted .elided .elided
  | blank : SameEmitted .blank .blank
  | line {text text' : List Char} (h : allBlank text = false) (h' : allBlank text' = false) :
      SameEmitted (.line text) (.line text')

theorem allBlank_send {line : List Char} (target : Target) (continuing : Continuing)
    (h : allBlank (stripSummary line) = false) :
    allBlank (send target continuing (rewrite target line)).1 = false := by
  rw [← allBlank_rewrite target] at h
  cases target with
  | shell => exact h
  | batch => exact allBlank_dispatch continuing h

theorem settle_alike (continuing continuing' : Continuing) (resolved : List Char) :
    Alike SameCause (fun out out' => SameEmitted out.1 out'.1)
      (settle .shell continuing resolved) (settle .batch continuing' resolved) := by
  rw [settle, settle]
  by_cases hblank : allBlank (stripSummary resolved) = true
  · rw [if_pos hblank, if_pos hblank]
    exact .ok .blank
  · rw [if_neg hblank, if_neg hblank]
    have hopen : allBlank (stripSummary resolved) = false := Bool.eq_false_iff.mpr hblank
    by_cases hnumbered : Numbered (stripSummary resolved)
    · simp only [if_pos hnumbered]
      exact .ok (.line (allBlank_send .shell continuing hopen)
        (allBlank_send .batch continuing' hopen))
    · simp only [if_neg hnumbered]
      exact .error (.expression _ _)

theorem transform_alike (bindings : Bindings) (continuing continuing' : Continuing)
    (raw : List Char) :
    Alike SameCause (fun out out' => SameEmitted out.1 out'.1)
      (transform .shell bindings continuing raw) (transform .batch bindings continuing' raw) := by
  rw [transform_eq, transform_eq]
  by_cases h : isElided (stripComment raw) = true
  · rw [if_pos h, if_pos h]
    exact .ok .elided
  · rw [if_neg h, if_neg h]
    refine (Alike.of_eq SameCause.same).bind ?_
    rintro resolved _ rfl
    exact settle_alike continuing continuing' resolved

end Line

end WorkflowScript
