import Mathlib.Data.List.Basic
import WorkflowScript.Text.Case

namespace WorkflowScript.Text

def isOwnLetter (c : Char) : Bool := c.isLower && c != 'i' && c != 'k'

variable {c : Char}

theorem toNat_of_isOwnLetter (h : isOwnLetter c = true) : 0x61 ≤ c.toNat ∧ c.toNat < 0x80 ∧ c.toNat ≠ 0x6B := by
  simp only [isOwnLetter, Bool.and_eq_true, bne_iff_ne] at h
  obtain ⟨⟨hlower, -⟩, hk⟩ := h
  obtain ⟨hlow, hhigh⟩ : 97 ≤ c.toNat ∧ c.toNat ≤ 122 :=
    (Bool.and_eq_true_iff.mp hlower).imp of_decide_eq_true of_decide_eq_true
  refine ⟨hlow, Nat.lt_of_le_of_lt hhigh (by decide), fun hcode => hk (Char.toNat_inj.mp hcode)⟩

theorem not_isOwnLetter_ofNat {n : Nat} (h : 0x80 ≤ n ∨ n = 0x6B) : isOwnLetter (Char.ofNat n) = false := by
  rw [Bool.eq_false_iff]
  intro hletter
  obtain ⟨hlow, hhigh, hk⟩ := toNat_of_isOwnLetter hletter
  by_cases hvalid : n.isValidChar
  · have hcode : (Char.ofNat n).toNat = n := by
      rw [Char.ofNat, dif_pos hvalid]
      rfl
    omega
  · have hcode : (Char.ofNat n).toNat = 0 := by
      rw [Char.ofNat, dif_neg hvalid]
      rfl
    omega

theorem lowerRuns_beyond : ∀ run ∈ lowerRuns,
    0x80 ≤ run.first + run.offset ∨ (run.first = run.last ∧ run.first + run.offset = 0x6B) := by
  decide +kernel

theorem lowerSequences_start : ∀ s ∈ lowerSequences, s.2.head? = some 0x69 := by decide

theorem exists_lowerChar_beyond (h : 0x80 ≤ c.toNat) :
    ∃ d rest, lowerChar c = d :: rest ∧ isOwnLetter d = false := by
  rw [lowerChar, if_neg (Nat.not_lt_of_le h), mapCase]
  cases hsequence : lowerSequences.find? (·.1 == c.toNat) with
  | some s =>
    have hstart := lowerSequences_start s (List.mem_of_find?_eq_some hsequence)
    obtain ⟨codes, hcodes⟩ := List.head?_eq_some_iff.mp hstart
    exact ⟨Char.ofNat 0x69, codes.map Char.ofNat, congrArg (List.map Char.ofNat) hcodes, by decide⟩
  | none =>
    cases hrun : lowerRuns.find? (·.contains c.toNat) with
    | some run =>
      refine ⟨_, [], rfl, not_isOwnLetter_ofNat ?_⟩
      have hcontains := List.find?_some hrun
      simp only [CaseRun.contains, Bool.and_eq_true, decide_eq_true_eq] at hcontains
      rcases lowerRuns_beyond run (List.mem_of_find?_eq_some hrun) with hfirst | ⟨hlast, hk⟩
      · omega
      · omega
    | none =>
      refine ⟨c, [], rfl, Bool.eq_false_iff.mpr fun hletter => ?_⟩
      have hrange := toNat_of_isOwnLetter hletter
      omega

theorem lowerAfter_cons (inWord : Bool) (c : Char) (text : List Char) : ∃ mapped inWord',
    lowerAfter inWord (c :: text) = mapped ++ lowerAfter inWord' text ∧
      (c.toNat < 0x80 → mapped = [c.toLower]) ∧
      (0x80 ≤ c.toNat → ∃ d rest, mapped = d :: rest ∧ isOwnLetter d = false) := by
  refine ⟨_, _, rfl, fun hascii => ?_, fun hbeyond => ?_⟩
  · have hsigma : c ≠ capitalSigma := by
      rintro rfl
      exact absurd hascii (by decide)
    rw [if_neg hsigma, lowerChar, if_pos hascii]
  · split
    · split
      · exact ⟨_, _, rfl, by decide⟩
      · exact ⟨_, _, rfl, by decide⟩
    · exact exists_lowerChar_beyond hbeyond

theorem toLower_of_beyond (h : 0x80 ≤ c.toNat) : c.toLower = c := by
  refine dif_neg fun hupper => ?_
  have hrange : 65 ≤ c.toNat ∧ c.toNat ≤ 90 := hupper
  omega

theorem lowerAfter_eq_iff {inWord : Bool} {text word : List Char} (h : ∀ c ∈ word, isOwnLetter c = true) :
    lowerAfter inWord text = word ↔ text.map Char.toLower = word := by
  induction text generalizing inWord word with
  | nil => rfl
  | cons c text ih =>
    obtain ⟨mapped, inWord', hlower, hascii, hbeyond⟩ := lowerAfter_cons inWord c text
    rw [hlower, List.map_cons]
    by_cases hc : c.toNat < 0x80
    · rw [hascii hc, List.singleton_append]
      cases word with
      | nil => simp
      | cons d word => rw [List.cons.injEq, List.cons.injEq, ih (List.forall_mem_cons.mp h).2]
    · -- neither the lower case of this character nor the character itself begins such a word
      obtain ⟨d, rest, rfl, hd⟩ := hbeyond (Nat.le_of_not_lt hc)
      rw [toLower_of_beyond (Nat.le_of_not_lt hc)]
      refine iff_of_false ?_ ?_
      · rintro rfl
        exact Bool.eq_false_iff.mp hd (h d List.mem_cons_self)
      · rintro rfl
        exact hc (toNat_of_isOwnLetter (h c List.mem_cons_self)).2.1

theorem lower_eq_iff {text word : String} (h : ∀ c ∈ word.toList, isOwnLetter c = true) :
    lower text = word ↔ text.toList.map Char.toLower = word.toList := by
  rw [lower, ← String.toList_inj, String.toList_ofList, lowerAfter_eq_iff h]

end WorkflowScript.Text
