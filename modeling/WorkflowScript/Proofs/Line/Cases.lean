import WorkflowScript.Proofs.Line.Transform

namespace WorkflowScript.Line

open Text Outcome

structure ComesTo (target : Target) (bindings : Bindings) (raw text : List Char) : Prop where
  kept : isElided (stripComment raw) = false
  passes : ∃ resolved, Placeholder.resolve bindings (stripComment raw) = .ok resolved ∧
    text = rewrite target resolved

inductive Becomes (target : Target) (bindings : Bindings) (continuing : Continuing) (raw : List Char) :
    Emitted → Continuing → Prop
  | elided (h : isElided (stripComment raw) = true) :
      Becomes target bindings continuing raw .elided continuing
  | blank {text : List Char} (h : ComesTo target bindings raw text) (hblank : allBlank text = true) :
      Becomes target bindings continuing raw .blank continuing
  | line {text : List Char} (h : ComesTo target bindings raw text) (hopen : allBlank text = false)
      (hnumbered : Numbered (send target continuing text).1) :
      Becomes target bindings continuing raw (.line (send target continuing text).1)
        (send target continuing text).2

variable {target : Target} {bindings : Bindings} {continuing after : Continuing} {raw text : List Char}
  {emitted : Emitted}

theorem becomes_of_settle {resolved : List Char} (hkept : isElided (stripComment raw) = false)
    (hresolved : Placeholder.resolve bindings (stripComment raw) = .ok resolved)
    (h : settle target continuing resolved = .ok (emitted, after)) :
    Becomes target bindings continuing raw emitted after := by
  have hcomes : ComesTo target bindings raw (rewrite target resolved) := ⟨hkept, resolved, hresolved, rfl⟩
  rw [settle, ← allBlank_rewrite target] at h
  split at h
  · next hblank =>
    cases h
    exact .blank hcomes hblank
  · next hopen =>
    split at h
    · next hnumbered =>
      cases h
      exact .line hcomes (Bool.eq_false_iff.mpr hopen) ((numbered_send _ _ _).mpr hnumbered)
    · cases h

theorem settle_blank {resolved : List Char} (h : allBlank (rewrite target resolved) = true) :
    settle target continuing resolved = .ok (.blank, continuing) := by
  rw [allBlank_rewrite] at h
  rw [settle, if_pos h]

theorem settle_line {resolved : List Char} (h : allBlank (rewrite target resolved) = false)
    (hnumbered : Numbered (send target continuing (rewrite target resolved)).1) :
    settle target continuing resolved =
      .ok (.line (send target continuing (rewrite target resolved)).1,
        (send target continuing (rewrite target resolved)).2) := by
  rw [allBlank_rewrite] at h
  rw [numbered_send] at hnumbered
  rw [settle, if_neg (by rw [h]; exact Bool.false_ne_true)]
  simp only [if_pos hnumbered]

theorem transform_eq_ok_iff :
    transform target bindings continuing raw = .ok (emitted, after) ↔
      Becomes target bindings continuing raw emitted after := by
  rw [transform_eq]
  constructor
  · intro h
    split at h
    · next helided =>
      cases h
      exact .elided helided
    · next hkept =>
      obtain ⟨resolved, hresolved, hsettle⟩ := bind_eq_ok_iff.mp h
      exact becomes_of_settle (Bool.eq_false_iff.mpr hkept) hresolved hsettle
  · intro h
    cases h with
    | elided helided => rw [if_pos helided]
    | blank hcomes hblank =>
      obtain ⟨hkept, resolved, hresolved, rfl⟩ := hcomes
      rw [if_neg (by rw [hkept]; exact Bool.false_ne_true), hresolved]
      exact settle_blank hblank
    | line hcomes hopen hnumbered =>
      obtain ⟨hkept, resolved, hresolved, rfl⟩ := hcomes
      rw [if_neg (by rw [hkept]; exact Bool.false_ne_true), hresolved]
      exact settle_line hopen hnumbered

def isSilent (target : Target) (bindings : Bindings) (raw : List Char) : Bool :=
  isElided (stripComment raw) ||
    (Placeholder.resolve bindings (stripComment raw)).toOption.any fun resolved =>
      allBlank (rewrite target resolved)

theorem isSilent_of_comesTo (h : ComesTo target bindings raw text) :
    isSilent target bindings raw = allBlank text := by
  obtain ⟨hkept, resolved, hresolved, rfl⟩ := h
  rw [isSilent, hkept, hresolved]
  rfl

def Emitted.text? : Emitted → Option (List Char)
  | .elided => none
  | .blank => none
  | .line text => some text

theorem isSilent_of_becomes (h : Becomes target bindings continuing raw emitted after) :
    isSilent target bindings raw = emitted.text?.isNone := by
  cases h with
  | elided helided => rw [isSilent, helided]; rfl
  | blank hcomes hblank => rw [isSilent_of_comesTo hcomes, hblank]; rfl
  | line hcomes hopen hnumbered => rw [isSilent_of_comesTo hcomes, hopen]; rfl

theorem state_of_isSilent (h : Becomes target bindings continuing raw emitted after)
    (hsilent : isSilent target bindings raw = true) : after = continuing := by
  cases h with
  | elided helided => rfl
  | blank hcomes hblank => rfl
  | line hcomes hopen hnumbered =>
    rw [isSilent_of_comesTo hcomes, hopen] at hsilent
    cases hsilent

theorem exists_becomes_of_isSilent (continuing : Continuing) (h : isSilent target bindings raw = true) :
    ∃ emitted, Becomes target bindings continuing raw emitted continuing ∧ emitted.text? = none := by
  by_cases helided : isElided (stripComment raw) = true
  · exact ⟨_, .elided helided, rfl⟩
  · have hkept : isElided (stripComment raw) = false := Bool.eq_false_iff.mpr helided
    rw [isSilent, hkept, Bool.false_or, Option.any_eq_true] at h
    obtain ⟨resolved, hsome, hblank⟩ := h
    have hresolved : Placeholder.resolve bindings (stripComment raw) = .ok resolved := by
      cases hresolve : Placeholder.resolve bindings (stripComment raw) with
      | error e =>
        rw [hresolve] at hsome
        cases hsome
      | ok found =>
        rw [hresolve] at hsome
        cases hsome
        rfl
    exact ⟨_, .blank ⟨hkept, resolved, hresolved, rfl⟩ hblank, rfl⟩

theorem ne_nil_of_allBlank {text : List Char} (h : allBlank text = false) : text ≠ [] := by
  rintro rfl
  cases h

theorem text?_ne_nil (h : Becomes target bindings continuing raw emitted after) {text : List Char}
    (htext : emitted.text? = some text) : text ≠ [] := by
  cases h with
  | elided helided => cases htext
  | blank hcomes hblank => cases htext
  | line hcomes hopen hnumbered =>
    cases htext
    apply ne_nil_of_allBlank
    cases target with
    | shell => exact hopen
    | batch => exact allBlank_dispatch continuing hopen

end WorkflowScript.Line
