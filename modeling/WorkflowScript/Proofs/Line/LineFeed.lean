import WorkflowScript.Proofs.Fragment.Run
import WorkflowScript.Proofs.Template.Substitution

namespace WorkflowScript

open Text

namespace Line

variable {target : Target} {bindings : Bindings} {continuing after : Continuing} {raw line : List Char}

theorem mem_of_mem_beforeComment {escaped : Bool} {c : Char} (h : c ∈ beforeComment escaped line) :
    c ∈ line := by
  induction line generalizing escaped with
  | nil => exact h
  | cons d line ih =>
    rw [beforeComment] at h
    split at h
    · cases h
    · rcases List.mem_cons.mp h with rfl | h
      · exact List.mem_cons_self
      · exact List.mem_cons_of_mem _ (ih h)

theorem mem_of_mem_stripComment {c : Char} (h : c ∈ stripComment raw) : c ∈ raw :=
  mem_of_mem_beforeComment ((prefix_trimEnd _).subset h)

theorem mem_of_mem_stripSummary {c : Char} (h : c ∈ stripSummary line) : c ∈ line := by
  rcases mem_replaceAll ((prefix_trimEnd _).subset h) with h | ⟨o, -, h⟩
  · exact h
  · cases h

theorem mem_rewritePositional {c : Char} (h : c ∈ rewritePositional line) : c = '%' ∨ c ∈ line := by
  induction line using positional_induction with
  | nil => simp [rewritePositional_nil] at h
  | number d line hd ih =>
    rw [rewritePositional_number hd] at h
    simp only [List.mem_cons] at h ⊢
    rcases h with h | h | h
    · exact .inl h
    · exact .inr (.inr (.inl h))
    · exact (ih h).imp_right fun h => .inr (.inr h)
  | plain d line hd ih =>
    rw [rewritePositional_plain hd] at h
    simp only [List.mem_cons] at h ⊢
    rcases h with h | h
    · exact .inr (.inl h)
    · exact (ih h).imp_right .inr

theorem mem_rewriteBackslash {c : Char} (h : c ∈ rewriteBackslash line) :
    c = continuationMark ∨ c ∈ line := by
  rcases rewriteBackslash_cases line with heq | ⟨head, rfl, heq⟩
  · exact .inr (heq ▸ h)
  · rw [heq] at h
    rcases List.mem_append.mp h with h | h
    · exact .inr (List.mem_append_left _ h)
    · exact .inl (List.mem_singleton.mp h)

theorem mem_of_mem_rewriteSleep {c : Char} (hdigit : c.isDigit = false)
    (hwords : ∀ target, c ∉ sleepCommand target []) (h : c ∈ rewriteSleep target line) : c ∈ line := by
  rw [rewriteSleep] at h
  cases hsleep : sleepDigits? line with
  | none =>
    rw [hsleep] at h
    exact h
  | some digits =>
    rw [hsleep] at h
    have hfree := notMem_sleepCommand target (isDigit_of_sleepDigits? hsleep) hdigit (hwords target)
    exact absurd h hfree

theorem lineFeed_notMem_sleepCommand : ∀ target, '\n' ∉ sleepCommand target [] := by
  intro target
  cases target <;> decide

theorem lineFeed_of_rewrite (h : '\n' ∈ rewrite target line) : '\n' ∈ line := by
  cases target with
  | shell => exact mem_of_mem_stripSummary (mem_of_mem_rewriteSleep (by decide) lineFeed_notMem_sleepCommand h)
  | batch =>
    have hback := mem_of_mem_rewriteSleep (by decide) lineFeed_notMem_sleepCommand h
    have hmark := (mem_rewriteBackslash hback).resolve_left (by decide)
    exact mem_of_mem_stripSummary ((mem_rewritePositional hmark).resolve_left (by decide))

theorem mem_of_mem_send {c : Char} (hfixed : c ∉ dispatchWord ++ continuationIndent ++ errorJump)
    (h : c ∈ (send target continuing line).1) : c ∈ line := by
  cases target with
  | shell => exact h
  | batch =>
    obtain ⟨front, tail, hfront, htail, heq⟩ := exists_dispatch_eq continuing line
    have hsent : c ∈ front ++ line ++ tail := heq ▸ h
    simp only [List.mem_append, not_or] at hfixed hsent
    rcases hsent with (hsent | hsent) | hsent
    · rcases hfront with rfl | rfl
      · exact absurd hsent hfixed.1.1
      · exact absurd hsent hfixed.1.2
    · exact hsent
    · rcases htail with rfl | rfl
      · cases hsent
      · exact absurd hsent hfixed.2

theorem lineFeed_of_becomes {text : List Char} (h : Becomes target bindings continuing raw (.line text) after)
    (hraw : '\n' ∉ raw) (hfeed : '\n' ∈ text) :
    ∃ site : Placeholder.Site (stripComment raw), ∃ value,
      Placeholder.Denotes bindings site.placeholder value ∧ '\n' ∈ value.toList := by
  generalize hemitted : Emitted.line text = emitted at h
  cases h with
  | elided helided => cases hemitted
  | blank hcomes hblank => cases hemitted
  | @line line hcomes hopen hnumbered =>
    cases hemitted
    obtain ⟨-, resolved, hresolved, rfl⟩ := hcomes
    have hmem : '\n' ∈ resolved := lineFeed_of_rewrite (mem_of_mem_send (by decide) hfeed)
    obtain ⟨values, hvalues, rfl⟩ := Placeholder.resolve_eq_ok_iff_becomes.mp hresolved
    obtain ⟨value, hvalue, hmem⟩ := List.mem_flatten.mp hmem
    obtain ⟨piece, hpiece, hbecomes⟩ := Outcome.exists_of_mem_right hvalues hvalue
    cases hbecomes with
    | plain c =>
      rw [List.mem_singleton] at hmem
      subst hmem
      exact absurd (mem_of_mem_stripComment (mem_of_plain_mem_pieces hpiece)) hraw
    | @occurrence o value hdenotes =>
      obtain ⟨front, back, hsplit⟩ := List.append_of_mem hpiece
      obtain ⟨site, -, rfl, -⟩ := Placeholder.exists_site_of_split hsplit
      exact ⟨site, value, hdenotes, hmem⟩

end Line

end WorkflowScript
