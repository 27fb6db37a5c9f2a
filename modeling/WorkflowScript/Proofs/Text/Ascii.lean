import Mathlib.Data.List.Basic
import WorkflowScript.Proofs.Text.Case

namespace WorkflowScript.Text

def isAscii (text : String) : Bool := text.toList.all fun c => c.toNat < 0x80

theorem lt_of_isAscii {text : String} (h : isAscii text = true) : ∀ c ∈ text.toList, c.toNat < 0x80 :=
  fun c hc => of_decide_eq_true (List.all_eq_true.mp h c hc)

section Letter

theorem toNat_toLower (c : Char) :
    c.toLower.toNat = if 65 ≤ c.toNat ∧ c.toNat ≤ 90 then c.toNat + 32 else c.toNat := by
  unfold Char.toLower
  split
  · next h =>
    have hrange : 65 ≤ c.toNat ∧ c.toNat ≤ 90 := h
    rw [if_pos hrange]
    change (c.val + 32).toNat = _
    rw [UInt32.toNat_add]
    change (c.toNat + 32) % 2 ^ 32 = _
    omega
  · next h => exact (if_neg h).symm

theorem toNat_toUpper (c : Char) :
    c.toUpper.toNat = if 97 ≤ c.toNat ∧ c.toNat ≤ 122 then c.toNat - 32 else c.toNat := by
  unfold Char.toUpper
  split
  · next h =>
    have hrange : 97 ≤ c.toNat ∧ c.toNat ≤ 122 := h
    rw [if_pos hrange]
    change (c.val + ('A'.val - 'a'.val)).toNat = _
    rw [UInt32.toNat_add]
    -- the difference of the two letters wraps around
    change (c.toNat + 4294967264) % 2 ^ 32 = _
    omega
  · next h => exact (if_neg h).symm

theorem toUpper_toLower (c : Char) : c.toLower.toUpper = c.toUpper := by
  rw [← Char.toNat_inj, toNat_toUpper, toNat_toUpper, toNat_toLower]
  split_ifs <;> omega

theorem toLower_toUpper (c : Char) : c.toUpper.toLower = c.toLower := by
  rw [← Char.toNat_inj, toNat_toLower, toNat_toLower, toNat_toUpper]
  split_ifs <;> omega

theorem toUpper_eq_toUpper_iff {c d : Char} : c.toUpper = d.toUpper ↔ c.toLower = d.toLower := by
  constructor
  · intro h
    rw [← toLower_toUpper c, h, toLower_toUpper]
  · intro h
    rw [← toUpper_toLower c, h, toUpper_toLower]

end Letter

section Whole

theorem map_toUpper_eq_iff {text other : List Char} :
    text.map Char.toUpper = other.map Char.toUpper ↔ text.map Char.toLower = other.map Char.toLower := by
  induction text generalizing other with
  | nil => cases other <;> simp
  | cons c text ih =>
    cases other with
    | nil => simp
    | cons d other => simp only [List.map_cons, List.cons.injEq, toUpper_eq_toUpper_iff, ih]

theorem lowerAfter_of_ascii {inWord : Bool} {text : List Char} (h : ∀ c ∈ text, c.toNat < 0x80) :
    lowerAfter inWord text = text.map Char.toLower := by
  induction text generalizing inWord with
  | nil => rfl
  | cons c text ih =>
    obtain ⟨hc, htext⟩ := List.forall_mem_cons.mp h
    obtain ⟨mapped, inWord', hlower, hascii, -⟩ := lowerAfter_cons inWord c text
    rw [hlower, hascii hc, ih htext]
    rfl

theorem lower_of_isAscii {text : String} (h : isAscii text = true) :
    lower text = .ofList (text.toList.map Char.toLower) := by
  rw [lower, lowerAfter_of_ascii (lt_of_isAscii h)]

theorem upper_of_isAscii {text : String} (h : isAscii text = true) :
    upper text = .ofList (text.toList.map Char.toUpper) := by
  have hchar : ∀ c ∈ text.toList, upperChar c = [c.toUpper] := fun c hc => if_pos (lt_of_isAscii h c hc)
  rw [upper, List.flatMap_congr hchar, ← List.map_eq_flatMap]

theorem upper_eq_upper_iff {text other : String} (h : isAscii text = true) (h' : isAscii other = true) :
    upper text = upper other ↔ sameIgnoringAsciiCase text.toList other.toList = true := by
  rw [upper_of_isAscii h, upper_of_isAscii h', String.ofList_inj, map_toUpper_eq_iff, sameIgnoringAsciiCase,
    beq_iff_eq]

theorem lower_eq_lower_iff {text other : String} (h : isAscii text = true) (h' : isAscii other = true) :
    lower text = lower other ↔ sameIgnoringAsciiCase text.toList other.toList = true := by
  rw [lower_of_isAscii h, lower_of_isAscii h', String.ofList_inj, sameIgnoringAsciiCase, beq_iff_eq]

end Whole

end WorkflowScript.Text
