import WorkflowScript.Proofs.Line.Cases
import WorkflowScript.Proofs.Line.Redirect
import WorkflowScript.Proofs.Line.Source
import WorkflowScript.Proofs.Template.Substitution

namespace WorkflowScript.Line

open Text

structure Plain (raw : List Char) : Prop where
  comment : '#' ∉ raw
  dollar : '$' ∉ raw
  pause : sleepDigits? raw = none

variable {bindings : Bindings} {line raw : List Char}

theorem beforeComment_of_notMem {escaped : Bool} (h : '#' ∉ line) : beforeComment escaped line = line := by
  induction line generalizing escaped with
  | nil => rfl
  | cons c line ih =>
    rw [List.mem_cons, not_or] at h
    rw [beforeComment, if_neg fun hmark => h.1 hmark.1.symm, ih h.2]

theorem stripComment_of_notMem (h : '#' ∉ line) : stripComment line = trimEnd line := by
  rw [stripComment, beforeComment_of_notMem h]

theorem isElided_stripComment_of_notMem (h : '#' ∉ line) (hopen : allBlank line = false) :
    isElided (stripComment line) = false := by
  rw [stripComment_of_notMem h, ← Bool.not_eq_true, isElided_iff, allBlank_trimEnd, hopen]
  rintro (hblank | ⟨gap, rest, -, hmark⟩)
  · cases hblank
  · have hmem : '#' ∈ trimEnd line := hmark ▸ List.mem_append_right gap List.mem_cons_self
    exact h ((prefix_trimEnd line).subset hmem)

theorem isEmpty_site_of_notMem (h : '$' ∉ line) : IsEmpty (Placeholder.Site line) := by
  refine ⟨fun site => h ?_⟩
  obtain ⟨tail, htail, -⟩ := Placeholder.exists_dollar_cons site.written
  rw [site.text_eq, htail]
  exact List.mem_append_right _ (List.mem_append_left _ List.mem_cons_self)

theorem resolve_of_notMem (h : '$' ∉ line) : Placeholder.resolve bindings line = .ok line :=
  Placeholder.resolve_of_isEmpty (isEmpty_site_of_notMem h)

theorem dollar_mem_of_redirect {o : Occurrence} (h : redirect line = some o) : '$' ∈ line := by
  obtain ⟨hwhole, -, rest, rfl⟩ := redirect_eq_some_iff.mp h
  exact List.mem_append_left rest hwhole.dollar_mem

theorem stripSummary_of_notMem (h : '$' ∉ line) : stripSummary line = trimEnd line := by
  have hnone : ∀ rest, rest <:+ line → redirect rest = none := by
    intro rest hrest
    cases hredirect : redirect rest with
    | none => rfl
    | some o => exact absurd (hrest.mem (dollar_mem_of_redirect hredirect)) h
  rw [stripSummary, replaceAll_eq_self hnone]

theorem Plain.comesTo (h : Plain raw) (hopen : allBlank raw = false) :
    ComesTo .shell bindings raw (trimEnd raw) := by
  have hstrip : stripComment raw = trimEnd raw := stripComment_of_notMem h.comment
  have hdollar : '$' ∉ trimEnd raw := fun hmem => h.dollar ((prefix_trimEnd raw).subset hmem)
  have hpause : sleepDigits? (trimEnd raw) = none := by
    cases hsleep : sleepDigits? (trimEnd raw) with
    | none => rfl
    | some digits =>
      have hraw := sleepDigits?_of_trimEnd hsleep
      rw [h.pause] at hraw
      cases hraw
  refine ⟨isElided_stripComment_of_notMem h.comment hopen, trimEnd raw, ?_, ?_⟩
  · rw [hstrip, resolve_of_notMem hdollar]
  · change _ = rewriteSleep .shell (stripSummary (trimEnd raw))
    rw [stripSummary_of_notMem hdollar, trimEnd_trimEnd, rewriteSleep, hpause]

def keep (raw : List Char) : Emitted := if allBlank raw then .elided else .line (trimEnd raw)

theorem Plain.becomes (h : Plain raw) (continuing : Continuing) :
    Becomes .shell bindings continuing raw (keep raw) continuing := by
  rw [keep]
  cases hblank : allBlank raw with
  | true =>
    have helided : isElided (stripComment raw) = true := by
      rw [stripComment_of_notMem h.comment, (trimEnd_eq_nil_iff raw).mpr hblank]
      rfl
    exact .elided helided
  | false =>
    have hopen : allBlank (trimEnd raw) = false := by rw [allBlank_trimEnd, hblank]
    have hdollar : '$' ∉ trimEnd raw := fun hmem => h.dollar ((prefix_trimEnd raw).subset hmem)
    exact .line (h.comesTo hblank) hopen (numbered_of_notMem hdollar)

end WorkflowScript.Line
