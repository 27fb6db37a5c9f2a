import WorkflowScript.Proofs.Line.LineFeed
import WorkflowScript.Proofs.Template.Expression

namespace WorkflowScript.Line

open Text Outcome

def HasLooseDollar (line : List Char) : Prop :=
  ∃ front rest, line = front ++ '$' :: rest ∧ startsWithDigit rest = false

def unpaired (behindDollar : Bool) : List Char → List Char
  | [] => []
  | c :: line =>
    if (c = '$' ∧ startsWithDigit line = true) ∨ (behindDollar = true ∧ c.isDigit = true) then
      unpaired (c == '$') line
    else c :: unpaired (c == '$') line

section Pairs

variable {line : List Char}

theorem hasLooseDollar_cons {c : Char} :
    HasLooseDollar (c :: line) ↔ (c = '$' ∧ startsWithDigit line = false) ∨ HasLooseDollar line := by
  constructor
  · rintro ⟨front, rest, hline, hloose⟩
    cases front with
    | nil =>
      cases hline
      exact .inl ⟨rfl, hloose⟩
    | cons d front =>
      cases hline
      exact .inr ⟨front, rest, rfl, hloose⟩
  · rintro (⟨rfl, hloose⟩ | ⟨front, rest, rfl, hloose⟩)
    · exact ⟨[], line, rfl, hloose⟩
    · exact ⟨c :: front, rest, rfl, hloose⟩

theorem not_numbered_iff : ¬ Numbered line ↔ HasLooseDollar line := by
  induction line with
  | nil => exact iff_of_false (fun h => h trivial) fun ⟨front, rest, hline, _⟩ => by simp at hline
  | cons c line ih =>
    rw [hasLooseDollar_cons, ← ih, Numbered, not_and_or, Classical.not_imp, Bool.not_eq_true]

theorem numbered_iff : Numbered line ↔
    ∀ front rest, line = front ++ '$' :: rest → startsWithDigit rest = true := by
  constructor
  · rintro h front rest rfl
    exact (numbered_of_suffix h (List.suffix_append _ _)).1 rfl
  · intro h
    by_contra hloose
    obtain ⟨front, rest, hline, hdigit⟩ := not_numbered_iff.mp hloose
    rw [h front rest hline] at hdigit
    cases hdigit

theorem unpaired_of_not_startsWithDigit (h : startsWithDigit line = false) :
    unpaired true line = unpaired false line := by
  cases line with
  | nil => rfl
  | cons c line =>
    have hc : c.isDigit = false := h
    simp [unpaired, hc]

theorem unpaired_number {d : Char} (hd : d.isDigit = true) (line : List Char) :
    unpaired false ('$' :: d :: line) = unpaired false line := by
  have hdollar : (d == '$') = false := beq_eq_false_iff_ne.mpr (ne_dollar_of_isDigit hd)
  simp [unpaired, startsWithDigit, hd, hdollar]

theorem unpaired_plain {c : Char} (h : c = '$' → startsWithDigit line = false) :
    unpaired false (c :: line) = c :: unpaired false line := by
  by_cases hc : c = '$'
  · subst hc
    have hstart := h rfl
    simp [unpaired, hstart, unpaired_of_not_startsWithDigit hstart]
  · have hdollar : (c == '$') = false := beq_eq_false_iff_ne.mpr hc
    simp [unpaired, hc, hdollar]

theorem withoutPositional_eq_unpaired (line : List Char) : withoutPositional line = unpaired false line := by
  induction line using positional_induction with
  | nil => exact replaceAll_nil _ _
  | number d line hd ih => rw [withoutPositional_number hd, unpaired_number hd, ih]
  | plain c line h ih => rw [withoutPositional_plain h, unpaired_plain h, ih]

end Pairs

section Batch

variable {line : List Char}

theorem dollar_notMem_rewritePositional (h : Numbered line) : '$' ∉ rewritePositional line := by
  induction line using positional_induction with
  | nil => simp [rewritePositional_nil]
  | number d line hd ih =>
    have hrest := ih ((numbered_number hd line).mp h)
    simp [rewritePositional_number hd, hrest, (ne_dollar_of_isDigit hd).symm]
  | plain c line hc ih =>
    have hdollar : c ≠ '$' := fun heq => by
      have hstart := h.1 heq
      rw [hc heq] at hstart
      cases hstart
    have hrest := ih h.2
    simp [rewritePositional_plain hc, hrest, hdollar.symm]

theorem dollar_notMem_sleepCommand : ∀ target, '$' ∉ sleepCommand target [] := by
  intro target
  cases target <;> decide

theorem dollar_notMem_send {continuing : Continuing} {resolved : List Char}
    (h : Numbered (send .batch continuing (rewrite .batch resolved)).1) :
    '$' ∉ (send .batch continuing (rewrite .batch resolved)).1 := by
  intro hmem
  have hline := mem_of_mem_rewriteSleep (by decide) dollar_notMem_sleepCommand (mem_of_mem_send (by decide) hmem)
  have hpositional := (mem_rewriteBackslash hline).resolve_left (by decide)
  exact dollar_notMem_rewritePositional ((numbered_send .batch continuing resolved).mp h) hpositional

end Batch

section Refusal

variable {target : Target} {bindings : Bindings} {continuing : Continuing} {raw : List Char}

theorem not_lacks_unsupportedExpression {o : Occurrence} {reported : String} :
    ¬ Placeholder.Lacks bindings o (.unsupportedExpression reported) := by
  rintro ⟨⟩

theorem settle_eq_unsupported_iff {resolved : List Char} {reported : String} :
    settle target continuing resolved = .error (.unsupportedExpression reported) ↔
      allBlank (rewrite target resolved) = false ∧
        HasLooseDollar (send target continuing (rewrite target resolved)).1 ∧
        reported = .ofList (unpaired false (send target continuing (rewrite target resolved)).1) := by
  rw [settle, allBlank_rewrite, ← not_numbered_iff, numbered_send]
  by_cases hblank : allBlank (stripSummary resolved) = true
  · simp [hblank]
  · rw [if_neg hblank]
    by_cases hnumbered : Numbered (stripSummary resolved)
    · simp [hnumbered]
    · simp [hnumbered, hblank, withoutPositional_eq_unpaired, eq_comm]

theorem exists_settle_unsupported_iff {resolved : List Char} :
    (∃ reported, settle target continuing resolved = .error (.unsupportedExpression reported)) ↔
      HasLooseDollar (stripSummary resolved) := by
  simp only [settle_eq_unsupported_iff, allBlank_rewrite, ← not_numbered_iff, numbered_send]
  constructor
  · rintro ⟨-, -, hloose, -⟩
    exact hloose
  · intro hloose
    refine ⟨_, ?_, hloose, rfl⟩
    rw [Bool.eq_false_iff]
    exact fun hblank => hloose (numbered_of_allBlank hblank)

theorem transform_eq_unsupported_iff {reported : String} :
    transform target bindings continuing raw = .error (.unsupportedExpression reported) ↔
      ∃ text, ComesTo target bindings raw text ∧ allBlank text = false ∧
        HasLooseDollar (send target continuing text).1 ∧
        reported = .ofList (unpaired false (send target continuing text).1) := by
  rw [transform_eq]
  constructor
  · intro h
    split at h
    · cases h
    · next hkept =>
      rcases bind_eq_error_iff.mp h with herror | ⟨resolved, hresolved, hsettle⟩
      · obtain ⟨site, hlacks, -⟩ := Placeholder.resolve_eq_error_iff.mp herror
        exact absurd hlacks not_lacks_unsupportedExpression
      · exact ⟨_, ⟨Bool.eq_false_iff.mpr hkept, resolved, hresolved, rfl⟩,
          settle_eq_unsupported_iff.mp hsettle⟩
  · rintro ⟨text, ⟨hkept, resolved, hresolved, rfl⟩, hrefused⟩
    rw [if_neg (by rw [hkept]; exact Bool.false_ne_true), hresolved]
    exact settle_eq_unsupported_iff.mpr hrefused

end Refusal

theorem guard_exact (target : Target) (bindings : Bindings) (continuing : Continuing) (raw : List Char) :
    (∀ line after, transform target bindings continuing raw = .ok (.line line, after) →
      (target = .batch → '$' ∉ line) ∧
      (∀ front rest, line = front ++ '$' :: rest → startsWithDigit rest = true) ∧
      ¬ Placeholder.opening <:+: line) ∧
    ∀ reported, transform target bindings continuing raw = .error (.unsupportedExpression reported) ↔
      ∃ text, ComesTo target bindings raw text ∧ allBlank text = false ∧
        HasLooseDollar (send target continuing text).1 ∧
        reported = .ofList (unpaired false (send target continuing text).1) := by
  refine ⟨?_, fun _ => transform_eq_unsupported_iff⟩
  intro line after h
  have hbecomes := transform_eq_ok_iff.mp h
  generalize hemitted : Emitted.line line = emitted at hbecomes
  cases hbecomes with
  | elided helided => cases hemitted
  | blank hcomes hblank => cases hemitted
  | @line text hcomes hopen hnumbered =>
    cases hemitted
    refine ⟨?_, numbered_iff.mp hnumbered, not_infix_of_numbered hnumbered⟩
    rintro rfl
    obtain ⟨-, resolved, -, rfl⟩ := hcomes
    exact dollar_notMem_send hnumbered

example : unpaired false "echo $$12".toList = "echo $2".toList := by decide

end WorkflowScript.Line
