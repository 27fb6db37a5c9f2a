import WorkflowScript.Proofs.Line.Cases
import WorkflowScript.Proofs.Line.Targets

namespace WorkflowScript.Line

open Text Outcome

variable {target : Target} {bindings : Bindings} {raw : List Char}

inductive Response (target : Target) (bindings : Bindings) (raw : List Char) : Prop
  | silent (emitted : Emitted) (hnone : emitted.text? = none)
      (h : ∀ state, transform target bindings state raw = .ok (emitted, state))
  | line (text : List Char) (hne : text ≠ [])
      (h : ∀ state, transform target bindings state raw =
        .ok (.line (send target state text).1, (send target state text).2))
  | refused (error : Continuing → CompileError) (hsame : ∀ state state', SameCause (error state) (error state'))
      (h : ∀ state, transform target bindings state raw = .error (error state))

theorem response (target : Target) (bindings : Bindings) (raw : List Char) :
    Response target bindings raw := by
  by_cases helided : isElided (stripComment raw) = true
  · refine .silent .elided rfl fun state => ?_
    rw [transform_eq, if_pos helided]
  · rcases exists_ok_or_error (Placeholder.resolve bindings (stripComment raw)) with
      ⟨resolved, hresolved⟩ | ⟨error, herror⟩
    · have hsettle (state : Continuing) :
          transform target bindings state raw = settle target state resolved := by
        rw [transform_eq, if_neg helided, hresolved]
        rfl
      by_cases hblank : allBlank (stripSummary resolved) = true
      · refine .silent .blank rfl fun state => ?_
        rw [hsettle, settle, if_pos hblank]
      · by_cases hnumbered : Numbered (stripSummary resolved)
        · have hopen : allBlank (rewrite target resolved) = false := by
            rw [allBlank_rewrite]
            exact Bool.eq_false_iff.mpr hblank
          refine .line (rewrite target resolved) (ne_nil_of_allBlank hopen) fun state => ?_
          rw [hsettle, settle, if_neg hblank]
          simp only [if_pos hnumbered]
        · let left (state : Continuing) : List Char :=
            withoutPositional (send target state (rewrite target resolved)).1
          refine .refused (fun state => .unsupportedExpression (.ofList (left state)))
            (fun _ _ => .expression _ _) fun state => ?_
          rw [hsettle, settle, if_neg hblank]
          simp only [if_neg hnumbered, left]
    · refine .refused (fun _ => error) (fun _ _ => .same error) fun state => ?_
      rw [transform_eq, if_neg helided, herror]
      rfl

end WorkflowScript.Line
