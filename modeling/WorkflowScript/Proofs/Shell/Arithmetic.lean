import Mathlib.Algebra.Ring.Int.Parity
import Mathlib.Tactic.Ring
import WorkflowScript.Proofs.Outcome
import WorkflowScript.Shell.Arithmetic

namespace WorkflowScript.Shell.Arithmetic

def Fits (n : Int) : Prop := -2 ^ 63 ≤ n ∧ n < 2 ^ 63

section Wrapping

variable {n : Int}

theorem wrap_mul_wrap (a b : Int) : wrap (wrap a * wrap b) = wrap (a * b) := by
  rw [wrap, wrap, wrap, wrap, Int.bmod_mul_bmod, Int.mul_bmod_bmod]

theorem wrap_mul_wrap_right (a b : Int) : wrap (a * wrap b) = wrap (a * b) := by
  rw [wrap, wrap, wrap, Int.mul_bmod_bmod]

theorem wrap_wrap_mul (a b : Int) : wrap (wrap a * b) = wrap (a * b) := by
  rw [wrap, wrap, wrap, Int.bmod_mul_bmod]

theorem fits_wrap (n : Int) : Fits (wrap n) :=
  ⟨Int.le_bmod (by decide), Int.bmod_lt (by decide)⟩

theorem Fits.wrap_eq (h : Fits n) : wrap n = n := Int.bmod_eq_of_le h.1 h.2

theorem fits_truth (b : Bool) : Fits (truth b) := by
  cases b with
  | false => exact ⟨by decide, by decide⟩
  | true => exact ⟨by decide, by decide⟩

theorem wrap_one : wrap 1 = 1 := (fits_truth true).wrap_eq

theorem fits_ofBits (bits : BitVec 64) : Fits (ofBits bits) := ⟨BitVec.le_toInt bits, BitVec.toInt_lt⟩

theorem fits_complement (h : Fits n) : Fits (-n - 1) := by
  obtain ⟨hle, hlt⟩ := h
  constructor <;> omega

theorem fits_tmod {a : Int} (h : Fits a) (b : Int) : Fits (a.tmod b) := by
  obtain ⟨hle, hlt⟩ := h
  rcases Int.le_total 0 a with hpos | hneg
  · have hnonneg := Int.tmod_nonneg b hpos
    have hbound := Int.natAbs_tmod a b ▸ Nat.mod_le a.natAbs b.natAbs
    constructor <;> omega
  · have hnonneg := Int.tmod_nonneg b (Int.neg_nonneg_of_nonpos hneg)
    rw [Int.neg_tmod] at hnonneg
    have hbound := Int.natAbs_tmod a b ▸ Nat.mod_le a.natAbs b.natAbs
    constructor <;> omega

end Wrapping

section Powers

theorem powerFrom_eq (base : Int) (exponent : Nat) : powerFrom base exponent = wrap (base ^ exponent) := by
  induction exponent with
  | zero => rw [powerFrom, pow_zero, wrap_one]
  | succ exponent ih => rw [powerFrom, ih, wrap_mul_wrap_right, pow_succ']

def squareStep (base : Int) (exponent i : Nat) (acc : Int) : Int :=
  let squared := wrap (acc * acc)
  if exponent.testBit i then wrap (squared * base) else squared

theorem squareStep_eq (base : Int) (exponent i : Nat) :
    squareStep base exponent i (wrap (base ^ (exponent >>> (i + 1)))) = wrap (base ^ (exponent >>> i)) := by
  have hsquare : wrap (wrap (base ^ (exponent >>> (i + 1))) * wrap (base ^ (exponent >>> (i + 1)))) =
      wrap (base ^ (2 * (exponent >>> (i + 1)))) := by
    rw [wrap_mul_wrap, two_mul, pow_add]
  have hhalf : exponent >>> (i + 1) = exponent >>> i / 2 := Nat.shiftRight_succ exponent i
  rw [squareStep, hsquare, hhalf, Nat.testBit_eq_decide_div_mod_eq, ← Nat.shiftRight_eq_div_pow]
  split
  · next hodd =>
    have hparts : exponent >>> i = 2 * (exponent >>> i / 2) + 1 := by
      have hmod := of_decide_eq_true hodd
      omega
    rw [wrap_wrap_mul, ← pow_succ, ← hparts]
  · next heven =>
    have hparts : exponent >>> i = 2 * (exponent >>> i / 2) := by
      have hmod : ¬exponent >>> i % 2 = 1 := fun hmod => heven (decide_eq_true hmod)
      omega
    rw [← hparts]

theorem foldr_squareStep (base : Int) {exponent i n : Nat} (h : exponent < 2 ^ (i + n)) :
    (List.range' i n).foldr (squareStep base exponent) 1 = wrap (base ^ (exponent >>> i)) := by
  induction n generalizing i with
  | zero =>
    rw [Nat.add_zero] at h
    rw [Nat.shiftRight_eq_div_pow, Nat.div_eq_of_lt h, pow_zero, wrap_one]
    rfl
  | succ n ih =>
    have hlater : exponent < 2 ^ (i + 1 + n) := by rwa [Nat.add_assoc, Nat.add_comm 1]
    rw [List.range'_succ, List.foldr_cons, ih hlater, squareStep_eq]

theorem powerOf_eq (base : Int) {exponent : Nat} (h : exponent < 2 ^ 64) :
    powerOf base exponent = wrap (base ^ exponent) := by
  rw [powerOf]
  split
  · exact powerFrom_eq base exponent
  · rw [List.range_eq_range']
    exact foldr_squareStep base h

end Powers

section Operators

variable {operator : String} {a b n : Int} {rest : Chars}

theorem number_fits {text : Chars} (h : number text = .ok n) : Fits n := by
  obtain ⟨value, -, rfl⟩ := Outcome.map_eq_ok_iff.mp h
  exact fits_wrap value

theorem applyUnary_fits (h : Fits n) (operator : String) : Fits (applyUnary operator n) := by
  unfold applyUnary
  split
  · exact fits_truth _
  · exact fits_complement h
  · exact fits_wrap _
  · exact h

theorem powerOf_fits (hb : Fits b) : Fits (powerOf a b.toNat) := by
  have hexponent : b.toNat < 2 ^ 64 := by
    obtain ⟨-, hlt⟩ := hb
    omega
  rw [powerOf_eq a hexponent]
  exact fits_wrap _

theorem applyBinary_fits (ha : Fits a) (hb : Fits b) (h : applyBinary operator a b rest = .ok n) : Fits n := by
  unfold applyBinary at h
  split at h
  · exact Except.ok.inj h ▸ hb
  · exact Except.ok.inj h ▸ fits_ofBits _
  · exact Except.ok.inj h ▸ fits_ofBits _
  · exact Except.ok.inj h ▸ fits_ofBits _
  · exact Except.ok.inj h ▸ fits_truth _
  · exact Except.ok.inj h ▸ fits_truth _
  · exact Except.ok.inj h ▸ fits_truth _
  · exact Except.ok.inj h ▸ fits_truth _
  · exact Except.ok.inj h ▸ fits_truth _
  · exact Except.ok.inj h ▸ fits_truth _
  · exact Except.ok.inj h ▸ fits_ofBits _
  · exact Except.ok.inj h ▸ fits_ofBits _
  · exact Except.ok.inj h ▸ fits_wrap _
  · exact Except.ok.inj h ▸ fits_wrap _
  · exact Except.ok.inj h ▸ fits_wrap _
  · split at h
    · cases h
    · exact Except.ok.inj h ▸ fits_wrap _
  · split at h
    · cases h
    · exact Except.ok.inj h ▸ fits_tmod ha b
  · split at h
    · cases h
    · exact Except.ok.inj h ▸ powerOf_fits hb
  · cases h

end Operators

end WorkflowScript.Shell.Arithmetic
