import WorkflowScript.Proofs.Fragment.Dispatch

namespace WorkflowScript.Line

open Text Outcome

section Passes

variable {line digits resolved : List Char}

def prepare (target : Target) (line : List Char) : List Char :=
  match target with
  | .shell => line
  | .batch => rewriteBackslash (rewritePositional line)

theorem rewrite_eq (target : Target) (resolved : List Char) :
    rewrite target resolved = rewriteSleep target (prepare target (stripSummary resolved)) := by
  cases target <;> rfl

theorem pause_prepare_iff (target : Target) : Pause digits (prepare target line) ↔ Pause digits line := by
  cases target with
  | shell => rfl
  | batch => rw [prepare, ← sleepDigits?_eq_some_iff, sleepDigits?_rewrite, sleepDigits?_eq_some_iff]

theorem rewrite_of_pause (h : Pause digits (stripSummary resolved)) (target : Target) :
    rewrite target resolved = sleepCommand target digits := by
  rw [rewrite_eq, rewriteSleep_of_pause ((pause_prepare_iff target).mpr h)]

theorem rewrite_of_not_pause (h : ∀ digits, ¬ Pause digits (stripSummary resolved)) (target : Target) :
    rewrite target resolved = prepare target (stripSummary resolved) := by
  rw [rewrite_eq]
  exact rewriteSleep_of_not_pause (fun digits hpause => h digits ((pause_prepare_iff target).mp hpause)) target

end Passes

section Lines

variable {target : Target} {bindings : Bindings} {continuing after : Continuing}
  {raw resolved digits line : List Char}

theorem dispatch_sleepCommand (continuing : Continuing) (digits : List Char) :
    dispatch continuing (sleepCommand .batch digits) =
      ((if continuing then continuationIndent else dispatchWord) ++ sleepCommand .batch digits ++ errorJump,
        false) := by
  have hne : sleepCommand .batch digits ≠ [] := List.cons_ne_nil _ _
  have hends : goesOn (sleepCommand .batch digits) = false :=
    goesOn_append (by decide : " /NOBREAK >nul".toList ≠ []) _
  rw [dispatch_eq continuing hne, ending, hends]
  rfl

theorem transform_of_pause (hkept : isElided (stripComment raw) = false)
    (hresolved : Placeholder.resolve bindings (stripComment raw) = .ok resolved)
    (h : Pause digits (stripSummary resolved)) : transform target bindings continuing raw =
      .ok (.line (send target continuing (sleepCommand target digits)).1,
        (send target continuing (sleepCommand target digits)).2) := by
  have hopen : allBlank (rewrite target resolved) = false := by
    rw [allBlank_rewrite]
    exact allBlank_of_sleepDigits? (sleepDigits?_eq_some_iff.mpr h)
  have hnumbered : Numbered (send target continuing (rewrite target resolved)).1 := by
    rw [numbered_send]
    exact numbered_of_notMem (notMem_of_sleepDigits? (sleepDigits?_eq_some_iff.mpr h) not_isPauseChar_dollar)
  rw [transform_of_resolve hkept hresolved, settle_line hopen hnumbered, rewrite_of_pause h]

theorem line_of_not_pause (hresolved : Placeholder.resolve bindings (stripComment raw) = .ok resolved)
    (h : ∀ digits, ¬ Pause digits (stripSummary resolved))
    (hline : transform target bindings continuing raw = .ok (.line line, after)) :
    line = (send target continuing (prepare target (stripSummary resolved))).1 := by
  have hbecomes := transform_eq_ok_iff.mp hline
  generalize hemitted : Emitted.line line = emitted at hbecomes
  cases hbecomes with
  | elided helided => cases hemitted
  | blank hcomes hblank => cases hemitted
  | @line text hcomes hopen hnumbered =>
    cases hemitted
    obtain ⟨-, found, hfound, rfl⟩ := hcomes
    rw [hresolved] at hfound
    cases hfound
    rw [rewrite_of_not_pause h]

end Lines

theorem pauses_rewritten (text : List Char) :
    (∀ target, rewriteSleep target text ≠ text ↔ ∃ digits, Pause digits text) ∧
    (∀ digits, Pause digits text → rewriteSleep .shell text = "ghx sleep ".toList ++ digits ∧
      rewriteSleep .batch text = "TIMEOUT /T ".toList ++ digits ++ " /NOBREAK >nul".toList) ∧
    (∀ target again, rewriteSleep again (rewriteSleep target text) = rewriteSleep target text) ∧
    (∀ digits, Pause digits (rewriteBackslash (rewritePositional text)) ↔ Pause digits text) ∧
    ∀ bindings continuing raw resolved, isElided (stripComment raw) = false →
      Placeholder.resolve bindings (stripComment raw) = .ok resolved → stripSummary resolved = text →
      (∀ digits, Pause digits text →
        transform .shell bindings continuing raw = .ok (.line ("ghx sleep ".toList ++ digits), continuing) ∧
        transform .batch bindings continuing raw = .ok (.line ((if continuing then continuationIndent else dispatchWord)
          ++ ("TIMEOUT /T ".toList ++ digits ++ " /NOBREAK >nul".toList) ++ errorJump), false)) ∧
      ((∀ digits, ¬ Pause digits text) → ∀ line after,
        (transform .shell bindings continuing raw = .ok (.line line, after) → line = text) ∧
        (transform .batch bindings continuing raw = .ok (.line line, after) →
          line = (dispatch continuing (rewriteBackslash (rewritePositional text))).1)) := by
  refine ⟨rewriteSleep_ne_iff, ?_, fun target again => rewriteSleep_rewriteSleep target again text,
    fun digits => pause_prepare_iff .batch, ?_⟩
  · intro digits h
    exact ⟨rewriteSleep_of_pause h .shell, rewriteSleep_of_pause h .batch⟩
  · rintro bindings continuing raw resolved hkept hresolved rfl
    constructor
    · intro digits h
      have hbatch := @transform_of_pause .batch bindings continuing raw resolved digits hkept hresolved h
      rw [send, dispatch_sleepCommand] at hbatch
      exact ⟨transform_of_pause hkept hresolved h, hbatch⟩
    · intro h line after
      exact ⟨line_of_not_pause hresolved h, line_of_not_pause hresolved h⟩

def waiting : Bindings := ⟨.ofList [("wait", .ofDefault "05")], .none⟩

def pausing : List Char := " sleep\t$\x7b\x7b inputs.wait \x7d\x7d ; # seconds".toList

def paused : List Char := "     TIMEOUT /T 05 /NOBREAK >nul  || CALL :ERROR".toList

theorem paused_of_pausing : rewriteSleep .shell " sleep\t05 ;".toList = "ghx sleep 05".toList ∧
    transform .batch waiting true pausing = .ok (.line paused, false) := by
  obtain ⟨-, hrewrite, -, -, hlines⟩ := pauses_rewritten " sleep\t05 ;".toList
  have hpause : Pause "05".toList " sleep\t05 ;".toList := sleepDigits?_eq_some_iff.mp (by decide)
  obtain ⟨hpaused, -⟩ := hlines waiting true pausing " sleep\t05 ;".toList (by decide +kernel) (by decide +kernel)
    (by decide +kernel)
  exact ⟨(hrewrite _ hpause).1, (hpaused _ hpause).2⟩

end WorkflowScript.Line
