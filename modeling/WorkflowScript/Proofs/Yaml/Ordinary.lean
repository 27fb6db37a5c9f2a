import Mathlib.Data.List.TakeDrop
import WorkflowScript.Proofs.Text.Blank
import WorkflowScript.Proofs.Yaml.Lexer
import WorkflowScript.Yaml.Scalar.Meaning

namespace WorkflowScript

open Text

theorem Text.toNat_of_isAlpha {c : Char} (h : c.isAlpha = true) : 65 ≤ c.toNat ∧ c.toNat ≤ 122 := by
  rcases Bool.or_eq_true_iff.mp h with hupper | hlower
  · have hrange : 65 ≤ c.toNat ∧ c.toNat ≤ 90 := of_decide_eq_true hupper
    omega
  · have hrange : 97 ≤ c.toNat ∧ c.toNat ≤ 122 :=
      (Bool.and_eq_true_iff.mp hlower).imp of_decide_eq_true of_decide_eq_true
    omega

namespace Document.Number

variable {c : Char} (h : c.isAlpha = true) (text : List Char)
include h

theorem not_isDigit_of_isAlpha : c.isDigit = false := by
  rw [Bool.eq_false_iff]
  intro hdigit
  have hletter := toNat_of_isAlpha h
  have hrange := toNat_of_isDigit hdigit
  omega

theorem digits?_of_isAlpha : digits? 10 (c :: text) = none := by
  have hdigit : digit? 10 c = none := by
    rw [digit?, not_isDigit_of_isAlpha h, if_neg Bool.false_ne_true]
    split
    · simp [Option.filter]
    · split
      · simp [Option.filter]
      · rfl
  rw [digits?, digitsFrom?, hdigit]
  · rfl
  · exact List.cons_ne_nil c text

omit text in
theorem ne_of_isAlpha {mark : Char} (hmark : mark.isAlpha = false) : c ≠ mark := by
  rintro rfl
  exact Bool.false_ne_true (hmark.symm.trans h)

theorem isZeroPadded_of_isAlpha : isZeroPadded (c :: text) = false := by
  rw [isZeroPadded]
  rintro d digits ⟨rfl, -⟩
  cases h

theorem readWhole_of_isAlpha : readWhole (c :: text) = .notWhole := by
  have hafter : ∀ {mark : Char} (rest), mark.isAlpha = false →
      afterLiteral? (mark :: rest) (c :: text) = none :=
    fun rest hmark => if_neg (ne_of_isAlpha h hmark).symm
  have hmagnitude : magnitude? (c :: text) = none := by
    simp [magnitude?, hafter, isZeroPadded_of_isAlpha h, digits?_of_isAlpha h]
  simp [readWhole, unsigned?, negative?, hafter, hmagnitude]

theorem float?_of_isAlpha : float? (c :: text) = none := by
  have hpoint : c ≠ '.' := ne_of_isAlpha h rfl
  have hminus : c ≠ '-' := ne_of_isAlpha h rfl
  have hplus : c ≠ '+' := ne_of_isAlpha h rfl
  have hrun : digitRun (c :: text) = ([], c :: text) := by
    simp [digitRun, List.span_eq_takeWhile_dropWhile, not_isDigit_of_isAlpha h]
  have hdecimal : ∀ negative, decimal? negative (c :: text) = none := by
    intro negative
    simp [decimal?, hrun, hpoint, digits?]
  simp [float?, isUndefinedWord, isInfinityWord, hpoint, hminus, hplus, hdecimal]

end Document.Number

namespace Yaml

open Document Lexer

structure IsOrdinary (text : List Char) : Prop where
  first : text.head?.any Char.isAlpha = true
  word : ∀ c ∈ text, isWordChar c = true
  not_null : Meaning.isNullWord text = false
  not_bool : Meaning.bool? text = none

section Characters

variable {c : Char}

theorem not_isGap_of_isWordChar (h : isWordChar c = true) : isGap c = false := by
  rw [Bool.eq_false_iff]
  intro hgap
  simp only [isGap, isSpace, isBreak, Bool.or_eq_true, beq_iff_eq] at hgap
  rcases hgap with (rfl | rfl) | (rfl | rfl) | rfl
  all_goals exact absurd h (by decide)

theorem not_isIndicator_of_isAlpha (h : c.isAlpha = true) : isIndicator c = false := by
  have hletters : (['-', '?', ':', ',', '[', ']', '\x7b', '\x7d', '#', '&', '*', '!', '|', '>', '\x27', '\x22',
      '%', '@', '\x60'].any Char.isAlpha) = false := by decide
  rw [isIndicator_eq_false_iff]
  exact fun hmem => Bool.false_ne_true (hletters.symm.trans (List.any_eq_true.mpr ⟨c, hmem, h⟩))

theorem printed_of_isWordChar (h : isWordChar c = true) : isAllowed c = true ∧ c ≠ '\r' ∧ c ≠ nextLine := by
  have hrange : 0x20 ≤ c.toNat → c.toNat ≤ 0x7E → isAllowed c = true := by
    intro hlow hhigh
    simp [isAllowed, hlow, hhigh]
  refine ⟨?_, ?_, ?_⟩
  · simp only [isWordChar, Bool.or_eq_true, beq_iff_eq] at h
    rcases h with (h | rfl) | rfl
    · rcases Bool.or_eq_true_iff.mp h with hletter | hdigit
      · have hletters := toNat_of_isAlpha hletter
        exact hrange (by omega) (by omega)
      · have hdigits := toNat_of_isDigit hdigit
        exact hrange (by omega) (by omega)
    · decide
    · decide
  · rintro rfl
    cases h
  · rintro rfl
    exact absurd h (by decide)

end Characters

namespace IsOrdinary

variable {text : List Char} (h : IsOrdinary text)
include h

theorem exists_cons : ∃ c rest, text = c :: rest ∧ c.isAlpha = true := by
  cases text with
  | nil => cases h.first
  | cons c rest => exact ⟨c, rest, rfl, by simpa using h.first⟩

theorem plain_eq : Meaning.plain text = .ok (.string (.ofList text)) := by
  obtain ⟨c, rest, rfl, hc⟩ := h.exists_cons
  have hpadded : Meaning.isPaddedCode (c :: rest) = false := by
    have hminus : c ≠ '-' := Number.ne_of_isAlpha hc rfl
    have hplus : c ≠ '+' := Number.ne_of_isAlpha hc rfl
    simp [Meaning.isPaddedCode, hminus, hplus, Number.isZeroPadded_of_isAlpha hc]
  rw [Meaning.plain, h.not_null, h.not_bool, Number.readWhole_of_isAlpha hc]
  simp [hpadded, Number.float?_of_isAlpha hc, Meaning.string]

theorem unquoted : Unquoted text := by
  obtain ⟨c, rest, rfl, hc⟩ := h.exists_cons
  have hend : (c :: rest).getLast? ≠ some ':' := by
    intro hlast
    cases h.word ':' (List.mem_of_getLast? hlast)
  have hword : Plain.IsWord (c :: rest) :=
    ⟨List.cons_ne_nil c rest, fun d hd => not_isGap_of_isWordChar (h.word d hd), hend⟩
  exact .word hword (by simp [not_isIndicator_of_isAlpha hc])

theorem printed : Printed text := fun c hc => printed_of_isWordChar (h.word c hc)

end IsOrdinary

end Yaml

end WorkflowScript
