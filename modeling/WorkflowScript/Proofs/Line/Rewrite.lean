import WorkflowScript.Proofs.Line.Dollar
import WorkflowScript.Proofs.Line.Pause

namespace WorkflowScript.Line

open Text

section Backslash

variable {head : List Char} {c : Char}

theorem rewriteBackslash_cons {line : List Char} (h : line ≠ [])
    (hpair : ¬ (c = '\\' ∧ line = ['\\'])) : rewriteBackslash (c :: line) = c :: rewriteBackslash line := by
  cases line with
  | nil => exact absurd rfl h
  | cons d line =>
    by_cases hd : c = '\\' ∧ d = '\\'
    · obtain ⟨rfl, rfl⟩ := hd
      cases line with
      | nil => exact absurd ⟨rfl, rfl⟩ hpair
      | cons e line => rfl
    · rw [rewriteBackslash]
      · rintro rfl
        simp
      · rintro rfl hline
        cases hline
        exact absurd ⟨rfl, rfl⟩ hd

theorem rewriteBackslash_cases (line : List Char) :
    rewriteBackslash line = line ∨
      ∃ head, line = head ++ ['\\'] ∧ rewriteBackslash line = head ++ [continuationMark] := by
  induction line with
  | nil => exact .inl rfl
  | cons c line ih =>
    by_cases hnil : line = []
    · subst hnil
      by_cases hc : c = '\\'
      · subst hc
        exact .inr ⟨[], rfl, rfl⟩
      · left
        rw [rewriteBackslash]
        · rfl
        · simpa using hc
        · simp
    · by_cases hpair : c = '\\' ∧ line = ['\\']
      · obtain ⟨rfl, rfl⟩ := hpair
        exact .inl rfl
      · rw [rewriteBackslash_cons hnil hpair]
        rcases ih with ih | ⟨head, rfl, ih⟩
        · exact .inl (by rw [ih])
        · exact .inr ⟨c :: head, rfl, by rw [ih]; rfl⟩

theorem rewriteBackslash_concat_of_ne (h : c ≠ '\\') :
    rewriteBackslash (head ++ [c]) = head ++ [c] := by
  rcases rewriteBackslash_cases (head ++ [c]) with heq | ⟨front, hline, -⟩
  · exact heq
  · exact absurd (List.singleton_inj.mp (List.append_inj' hline rfl).2) h

theorem rewriteBackslash_pair (head : List Char) :
    rewriteBackslash (head ++ ['\\', '\\']) = head ++ ['\\', '\\'] := by
  induction head with
  | nil => rfl
  | cons d head ih =>
    have hlong : head ++ ['\\', '\\'] ≠ ['\\'] := fun heq => by simpa using congrArg List.length heq
    rw [List.cons_append, rewriteBackslash_cons (by simp) fun h => hlong h.2, ih]

theorem rewriteBackslash_single (h : head.getLast? ≠ some '\\') :
    rewriteBackslash (head ++ ['\\']) = head ++ [continuationMark] := by
  induction head with
  | nil => rfl
  | cons d head ih =>
    have hpair : ¬ (d = '\\' ∧ head ++ ['\\'] = ['\\']) := by
      rintro ⟨rfl, hhead⟩
      rw [List.self_eq_append_left.mp hhead.symm] at h
      exact h rfl
    rw [List.cons_append, rewriteBackslash_cons (by simp) hpair, ih, List.cons_append]
    cases head with
    | nil => simp
    | cons e head => rwa [List.getLast?_cons_cons] at h

theorem rewriteBackslash_of_other {line : List Char}
    (h : ∀ head, line = head ++ ['\\'] → head.getLast? = some '\\') :
    rewriteBackslash line = line := by
  rcases line.eq_nil_or_concat with rfl | ⟨head, c, rfl⟩
  · rfl
  · rw [List.concat_eq_append] at h ⊢
    by_cases hc : c = '\\'
    · subst hc
      obtain ⟨front, rfl⟩ := List.getLast?_eq_some_iff.mp (h head rfl)
      rw [List.append_assoc]
      exact rewriteBackslash_pair front
    · exact rewriteBackslash_concat_of_ne hc

theorem rewriteBackslash_eq_self {line : List Char} (h : continuationMark ∉ rewriteBackslash line) :
    rewriteBackslash line = line := by
  rcases rewriteBackslash_cases line with heq | ⟨head, -, heq⟩
  · exact heq
  · rw [heq] at h
    exact absurd (List.mem_append_right head List.mem_cons_self) h

theorem rewriteBackslash_of_notMem {line : List Char} (h : '\\' ∉ line) :
    rewriteBackslash line = line := by
  rcases rewriteBackslash_cases line with heq | ⟨head, rfl, -⟩
  · exact heq
  · exact absurd (List.mem_append_right head List.mem_cons_self) h

theorem numbered_rewriteBackslash (line : List Char) :
    Numbered (rewriteBackslash line) ↔ Numbered line := by
  rcases rewriteBackslash_cases line with heq | ⟨head, hline, heq⟩
  · rw [heq]
  · rw [heq, hline, numbered_append_right (by decide) (by decide),
      numbered_append_right (by decide) (by decide)]

theorem allBlank_rewriteBackslash (line : List Char) :
    allBlank (rewriteBackslash line) = allBlank line := by
  rcases rewriteBackslash_cases line with heq | ⟨head, hline, heq⟩
  · rw [heq]
  · rw [heq, hline, allBlank, allBlank, List.all_append, List.all_append]
    rfl

end Backslash

section Pause

theorem sleepDigits?_rewrite (line : List Char) :
    sleepDigits? (rewriteBackslash (rewritePositional line)) = sleepDigits? line := by
  cases h : sleepDigits? line with
  | some digits =>
    have hdollar : '$' ∉ line := notMem_of_sleepDigits? h not_isPauseChar_dollar
    have hbackslash : '\\' ∉ line := notMem_of_sleepDigits? h (by unfold isPauseChar; decide)
    rw [rewritePositional_of_notMem hdollar, rewriteBackslash_of_notMem hbackslash, h]
  | none =>
    cases hrewritten : sleepDigits? (rewriteBackslash (rewritePositional line)) with
    | none => rfl
    | some digits =>
      have hmark := notMem_of_sleepDigits? hrewritten (c := continuationMark)
        (by unfold isPauseChar; decide)
      rw [rewriteBackslash_eq_self hmark] at hrewritten
      have hpercent := notMem_of_sleepDigits? hrewritten (c := '%') (by unfold isPauseChar; decide)
      rw [rewritePositional_eq_self hpercent, h] at hrewritten
      cases hrewritten

theorem notMem_sleepCommand (target : Target) {digits : List Char} {c : Char}
    (h : ∀ d ∈ digits, d.isDigit = true) (hc : c.isDigit = false) (hwords : c ∉ sleepCommand target []) :
    c ∉ sleepCommand target digits := by
  have hdigits : c ∉ digits := fun hmem => by
    rw [h c hmem] at hc
    cases hc
  cases target with
  | shell => exact List.not_mem_append hwords hdigits
  | batch =>
    have hword : c ∉ "TIMEOUT /T ".toList :=
      fun hmem => hwords (List.mem_append_left _ (List.mem_append_left _ hmem))
    have hend : c ∉ " /NOBREAK >nul".toList := fun hmem => hwords (List.mem_append_right _ hmem)
    exact List.not_mem_append (List.not_mem_append hword hdigits) hend

theorem numbered_sleepCommand (target : Target) {digits : List Char}
    (h : ∀ d ∈ digits, d.isDigit = true) : Numbered (sleepCommand target digits) :=
  numbered_of_notMem (notMem_sleepCommand target h (by decide) (by cases target <;> decide))

theorem allBlank_rewriteSleep (target : Target) (line : List Char) :
    allBlank (rewriteSleep target line) = allBlank line := by
  rw [rewriteSleep]
  cases h : sleepDigits? line with
  | none => rfl
  | some digits =>
    rw [allBlank_of_sleepDigits? h]
    cases target <;> rfl

theorem numbered_rewriteSleep (target : Target) (line : List Char) :
    Numbered (rewriteSleep target line) ↔ Numbered line := by
  rw [rewriteSleep]
  cases h : sleepDigits? line with
  | none => rfl
  | some digits =>
    exact iff_of_true (numbered_sleepCommand target (isDigit_of_sleepDigits? h))
      (numbered_of_notMem (notMem_of_sleepDigits? h not_isPauseChar_dollar))

end Pause

section Passes

theorem allBlank_rewrite (target : Target) (line : List Char) :
    allBlank (rewrite target line) = allBlank (stripSummary line) := by
  cases target with
  | shell => exact allBlank_rewriteSleep .shell _
  | batch =>
    exact (allBlank_rewriteSleep .batch _).trans
      ((allBlank_rewriteBackslash _).trans (allBlank_rewritePositional _))

theorem numbered_rewrite (target : Target) (line : List Char) :
    Numbered (rewrite target line) ↔ Numbered (stripSummary line) := by
  cases target with
  | shell => exact numbered_rewriteSleep .shell _
  | batch =>
    exact (numbered_rewriteSleep .batch _).trans
      ((numbered_rewriteBackslash _).trans (numbered_rewritePositional _))

theorem exists_dispatch_eq (continuing : Continuing) (line : List Char) :
    ∃ front tail, (front = dispatchWord ∨ front = continuationIndent) ∧
      (tail = [] ∨ tail = errorJump) ∧ (dispatch continuing line).1 = front ++ line ++ tail := by
  obtain ⟨front, hfront, hchoice⟩ : ∃ front, (front = dispatchWord ∨ front = continuationIndent) ∧
      (if continuing then continuationIndent else dispatchWord) = front := by
    cases continuing with
    | false => exact ⟨_, .inl rfl, rfl⟩
    | true => exact ⟨_, .inr rfl, rfl⟩
  simp only [dispatch, hchoice]
  split
  · exact ⟨front, [], hfront, .inl rfl, (List.append_nil _).symm⟩
  · exact ⟨front, errorJump, hfront, .inr rfl, rfl⟩

theorem numbered_dispatch (continuing : Continuing) (line : List Char) :
    Numbered (dispatch continuing line).1 ↔ Numbered line := by
  obtain ⟨front, tail, hfront, htail, heq⟩ := exists_dispatch_eq continuing line
  have hdollar : '$' ∉ front := by rcases hfront with rfl | rfl <;> decide
  have hdollar' : '$' ∉ tail := by rcases htail with rfl | rfl <;> decide
  have hdigit : startsWithDigit tail = false := by rcases htail with rfl | rfl <;> decide
  rw [heq, numbered_append_right hdollar' hdigit, numbered_append_left hdollar]

theorem allBlank_dispatch {line : List Char} (continuing : Continuing) (h : allBlank line = false) :
    allBlank (dispatch continuing line).1 = false := by
  obtain ⟨front, tail, -, -, heq⟩ := exists_dispatch_eq continuing line
  rw [heq, allBlank_append, allBlank_append, h, Bool.and_false, Bool.false_and]

end Passes

end WorkflowScript.Line
