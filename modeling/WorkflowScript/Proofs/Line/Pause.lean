import WorkflowScript.Proofs.Text.Blank
import WorkflowScript.Script.Line

namespace WorkflowScript.Line

open Text

inductive Pause (digits : List Char) : List Char → Prop
  | intro {a b c mark d : List Char} (ha : allBlank a = true) (hb : allBlank b = true) (hsep : b ≠ [])
      (hne : digits ≠ []) (hdigits : ∀ x ∈ digits, x.isDigit = true) (hc : allBlank c = true)
      (hmark : mark = [] ∨ mark = [';']) (hd : allBlank d = true) :
      Pause digits (a ++ ("sleep".toList ++ (b ++ (digits ++ (c ++ (mark ++ d))))))

variable {line digits : List Char}

section Reading

theorem not_isDigit_behind {c mark d : List Char} (hc : allBlank c = true)
    (hmark : mark = [] ∨ mark = [';']) (hd : allBlank d = true) :
    ∀ x ∈ c ++ (mark ++ d), ¬ x.isDigit = true := by
  have hgap : ∀ gap : List Char, allBlank gap = true → ∀ x ∈ gap, ¬ x.isDigit = true := by
    intro gap hblank x hx hdigit
    have hx := List.all_eq_true.mp hblank x hx
    rw [isBlank_of_isDigit hdigit] at hx
    cases hx
  intro x hx
  rcases List.mem_append.mp hx with hx | hx
  · exact hgap c hc x hx
  · rcases List.mem_append.mp hx with hx | hx
    · rcases hmark with rfl | rfl
      · cases hx
      · rw [List.mem_singleton.mp hx]
        decide
    · exact hgap d hd x hx

theorem takeWhile_isDigit {rest : List Char} (h : ∀ x ∈ digits, x.isDigit = true)
    (hrest : ∀ x ∈ rest, ¬ x.isDigit = true) : (digits ++ rest).takeWhile Char.isDigit = digits := by
  have hnil : rest.takeWhile Char.isDigit = [] := by
    cases rest with
    | nil => rfl
    | cons x rest => exact List.takeWhile_cons_of_neg (hrest x List.mem_cons_self)
  rw [List.takeWhile_append_of_pos h, hnil, List.append_nil]

theorem dropWhile_isDigit {rest : List Char} (h : ∀ x ∈ digits, x.isDigit = true)
    (hrest : ∀ x ∈ rest, ¬ x.isDigit = true) : (digits ++ rest).dropWhile Char.isDigit = rest := by
  have hsplit := List.takeWhile_append_dropWhile (p := Char.isDigit) (l := digits ++ rest)
  rw [takeWhile_isDigit h hrest] at hsplit
  exact List.append_cancel_left hsplit

theorem trimStart_getD_semicolon_iff {tail : List Char} :
    trimStart ((afterLiteral? [';'] tail).getD tail) = [] ↔
      ∃ mark d, (mark = [] ∨ mark = [';']) ∧ allBlank d = true ∧ tail = mark ++ d := by
  rw [trimStart_eq_nil_iff]
  constructor
  · intro h
    cases hread : afterLiteral? [';'] tail with
    | none =>
      rw [hread] at h
      exact ⟨[], tail, .inl rfl, h, rfl⟩
    | some rest =>
      rw [hread] at h
      exact ⟨[';'], rest, .inr rfl, h, afterLiteral?_eq_some_iff.mp hread⟩
  · rintro ⟨mark, d, hmark, hd, htail⟩
    rcases hmark with rfl | rfl
    · rw [List.nil_append] at htail
      subst htail
      cases tail with
      | nil => rfl
      | cons x tail =>
        have hx : ';' ≠ x := by
          rintro rfl
          cases hd
        rw [afterLiteral?, if_neg hx]
        exact hd
    · subst htail
      exact hd

theorem sleepDigits?_eq_some_iff : sleepDigits? line = some digits ↔ Pause digits line := by
  simp only [sleepDigits?, Option.bind_eq_bind, Option.bind_eq_some_iff, Option.ite_none_left_eq_some,
    Option.some.injEq, not_or, not_not, afterLiteral?_eq_some_iff, trimStart_getD_semicolon_iff]
  constructor
  · rintro ⟨t, hline, ⟨hsep, hne, mark, d, hmark, hd, htail⟩, rfl⟩
    obtain ⟨a, ha, hta⟩ := exists_eq_append_trimStart line
    obtain ⟨b, hb, htb⟩ := exists_eq_append_trimStart t
    obtain ⟨c, hc, htc⟩ := exists_eq_append_trimStart ((trimStart t).dropWhile Char.isDigit)
    have hsplit := List.takeWhile_append_dropWhile (p := Char.isDigit) (l := trimStart t)
    have hgap : b ≠ [] := by
      rintro rfl
      exact hsep htb.symm
    have hpause := Pause.intro ha hb hgap hne (fun x hx => List.mem_takeWhile_imp hx) hc hmark hd
    -- what was skipped and what was read, put together again from the end, is the line
    rw [← htail, ← htc, hsplit, ← htb, ← hline, ← hta] at hpause
    exact hpause
  · intro h
    cases h with
    | @intro a b c mark d ha hb hsep hne hdigits hc hmark hd =>
      have hbehind := not_isDigit_behind hc hmark hd
      have hstart : trimStart (b ++ (digits ++ (c ++ (mark ++ d)))) = digits ++ (c ++ (mark ++ d)) := by
        obtain ⟨x, rest, rfl⟩ := List.exists_cons_of_ne_nil hne
        rw [trimStart_append hb]
        exact trimStart_cons (isBlank_of_isDigit (hdigits x List.mem_cons_self)) _
      refine ⟨b ++ (digits ++ (c ++ (mark ++ d))), ?_, ?_⟩
      · rw [trimStart_append ha]
        exact trimStart_cons (by decide) _
      · rw [hstart, takeWhile_isDigit hdigits hbehind, dropWhile_isDigit hdigits hbehind,
          trimStart_append hc]
        refine ⟨⟨?_, hne, ?_⟩, rfl⟩
        · exact fun heq => hsep (List.self_eq_append_left.mp heq)
        · rcases hmark with rfl | rfl
          · exact ⟨[], [], .inl rfl, rfl, (trimStart_eq_nil_iff d).mpr hd⟩
          · exact ⟨[';'], d, .inr rfl, hd, trimStart_cons (by decide) d⟩

end Reading

theorem Pause.append_blank {gap : List Char} (h : Pause digits line) (hgap : allBlank gap = true) :
    Pause digits (line ++ gap) := by
  cases h with
  | @intro a b c mark d ha hb hsep hne hdigits hc hmark hd =>
    have hend : allBlank (d ++ gap) = true := by rw [allBlank_append, hd, hgap]; rfl
    have hpause := Pause.intro ha hb hsep hne hdigits hc hmark hend
    simpa only [List.append_assoc] using hpause

theorem sleepDigits?_of_trimEnd (h : sleepDigits? (trimEnd line) = some digits) :
    sleepDigits? line = some digits := by
  obtain ⟨gap, hgap, hline⟩ := exists_eq_trimEnd_append line
  have hpause := (sleepDigits?_eq_some_iff.mp h).append_blank hgap
  rw [← hline] at hpause
  exact sleepDigits?_eq_some_iff.mpr hpause

section Characters

def isPauseChar (c : Char) : Prop :=
  isBlank c = true ∨ c ∈ "sleep;".toList ∨ c.isDigit = true

theorem isDigit_of_sleepDigits? (h : sleepDigits? line = some digits) :
    ∀ d ∈ digits, d.isDigit = true := by
  cases sleepDigits?_eq_some_iff.mp h with
  | intro ha hb hsep hne hdigits hc hmark hd => exact hdigits

theorem isPauseChar_of_sleepDigits? (h : sleepDigits? line = some digits) :
    ∀ c ∈ line, isPauseChar c := by
  have hgap : ∀ gap : List Char, allBlank gap = true → ∀ x ∈ gap, isPauseChar x :=
    fun gap hblank x hx => .inl (List.all_eq_true.mp hblank x hx)
  cases sleepDigits?_eq_some_iff.mp h with
  | @intro a b c mark d ha hb hsep hne hdigits hc hmark hd =>
    simp only [List.forall_mem_append]
    refine ⟨hgap a ha, ?_, hgap b hb, fun x hx => .inr (.inr (hdigits x hx)), hgap c hc, ?_, hgap d hd⟩
    · exact fun x hx => .inr (.inl (List.mem_append_left [';'] hx))
    · rcases hmark with rfl | rfl
      · exact List.forall_mem_nil _
      · exact fun x hx => .inr (.inl (List.mem_append_right "sleep".toList hx))

theorem notMem_of_sleepDigits? (h : sleepDigits? line = some digits) {c : Char}
    (hc : ¬ isPauseChar c) : c ∉ line :=
  fun hmem => hc (isPauseChar_of_sleepDigits? h c hmem)

theorem not_isPauseChar_dollar : ¬ isPauseChar '$' := by
  unfold isPauseChar
  decide

theorem allBlank_of_sleepDigits? (h : sleepDigits? line = some digits) : allBlank line = false := by
  rw [← Bool.not_eq_true, ← trimStart_eq_nil_iff]
  intro hnil
  rw [sleepDigits?, hnil] at h
  cases h

end Characters

section Sleep

theorem rewriteSleep_of_pause (h : Pause digits line) (target : Target) :
    rewriteSleep target line = sleepCommand target digits := by
  rw [rewriteSleep, sleepDigits?_eq_some_iff.mpr h]

theorem rewriteSleep_of_not_pause (h : ∀ digits, ¬ Pause digits line) (target : Target) :
    rewriteSleep target line = line := by
  have hnone : sleepDigits? line = none := by
    rw [Option.eq_none_iff_forall_ne_some]
    exact fun digits hdigits => h digits (sleepDigits?_eq_some_iff.mp hdigits)
  rw [rewriteSleep, hnone]

theorem not_pause_sleepCommand (target : Target) (digits other : List Char) :
    ¬ Pause other (sleepCommand target digits) := by
  intro h
  have hread := sleepDigits?_eq_some_iff.mpr h
  cases target with
  | shell => exact notMem_of_sleepDigits? hread (by unfold isPauseChar; decide) List.mem_cons_self
  | batch => exact notMem_of_sleepDigits? hread (by unfold isPauseChar; decide) List.mem_cons_self

theorem rewriteSleep_ne_iff (target : Target) :
    rewriteSleep target line ≠ line ↔ ∃ digits, Pause digits line := by
  constructor
  · intro hne
    by_contra hnone
    exact hne (rewriteSleep_of_not_pause (not_exists.mp hnone) target)
  · rintro ⟨digits, h⟩ heq
    rw [rewriteSleep_of_pause h] at heq
    rw [← heq] at h
    exact not_pause_sleepCommand target digits digits h

theorem rewriteSleep_rewriteSleep (target again : Target) (line : List Char) :
    rewriteSleep again (rewriteSleep target line) = rewriteSleep target line := by
  by_cases h : ∃ digits, Pause digits line
  · obtain ⟨digits, h⟩ := h
    rw [rewriteSleep_of_pause h]
    exact rewriteSleep_of_not_pause (not_pause_sleepCommand target digits) again
  · have hnone := not_exists.mp h
    rw [rewriteSleep_of_not_pause hnone, rewriteSleep_of_not_pause hnone]

end Sleep

end WorkflowScript.Line
