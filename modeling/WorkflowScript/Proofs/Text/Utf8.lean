import Mathlib.Data.List.Basic
import WorkflowScript.Text.Utf8

namespace WorkflowScript.Text.Utf8

section Lead

variable {n : Nat}

theorem toNat_ofNat (h : n < 256) : (UInt8.ofNat n).toNat = n := by
  rw [UInt8.toNat_ofNat', Nat.mod_eq_of_lt h]

theorem lead?_one (h : n < 0x80) : lead? n = some ⟨0, n, tailLow, tailHigh⟩ := if_pos h

theorem lead?_two (hlow : 0xC2 ≤ n) (hhigh : n < 0xE0) :
    lead? n = some ⟨1, n - 0xC0, tailLow, tailHigh⟩ := by
  rw [lead?, if_neg (by omega), if_neg (by omega), if_pos hhigh]

theorem lead?_three (hlow : 0xE0 ≤ n) (hhigh : n < 0xF0) :
    lead? n = some ⟨2, n - 0xE0, if n = 0xE0 then 0xA0 else tailLow, if n = 0xED then 0x9F else tailHigh⟩ := by
  rw [lead?, if_neg (by omega), if_neg (by omega), if_neg (by omega), if_pos hhigh]

theorem lead?_four (hlow : 0xF0 ≤ n) (hhigh : n < 0xF5) :
    lead? n = some ⟨3, n - 0xF0, if n = 0xF0 then 0x90 else tailLow, if n = 0xF4 then 0x8F else tailHigh⟩ := by
  rw [lead?, if_neg (by omega), if_neg (by omega), if_neg (by omega), if_neg (by omega), if_pos hhigh]

end Lead

variable {c : Char} {n low high bits code : Nat} {front : Bytes}

inductive Follows : Nat → Nat → Nat → Bytes → Nat → Prop where
  | done (low high code : Nat) : Follows low high code [] code
  | next {low high bits n code : Nat} {bytes : Bytes} (hlow : low ≤ n % 64 + 128) (hhigh : n % 64 + 128 ≤ high)
      (h : Follows tailLow tailHigh (bits * 64 + n % 64) bytes code) :
      Follows low high bits (UInt8.ofNat (n % 64 + 128) :: bytes) code

theorem Follows.follow_eq (h : Follows low high bits front code) (rest : Bytes) :
    follow low high bits front.length (front ++ rest) = (front.length, some code) := by
  induction h with
  | done low high code => rfl
  | @next low high bits n code bytes hlow hhigh h ih =>
    have hbyte : (UInt8.ofNat (n % 64 + 128)).toNat = n % 64 + 128 := toNat_ofNat (by omega)
    have hbits : (n % 64 + 128) % 64 = n % 64 := by omega
    rw [List.length_cons, List.cons_append, follow, hbyte, if_pos ⟨hlow, hhigh⟩, hbits, ih]

theorem Follows.last (hlow : low ≤ n % 64 + 128) (hhigh : n % 64 + 128 ≤ high)
    (hcode : bits * 64 + n % 64 = code) : Follows low high bits [UInt8.ofNat (n % 64 + 128)] code := by
  subst hcode
  exact .next hlow hhigh (.done _ _ _)

theorem part_of_follows {size : Nat} (hn : n < 256) (hlead : lead? n = some ⟨size, bits, low, high⟩)
    (h : Follows low high bits front c.toNat) (hsize : size = front.length) (rest : Bytes) :
    part (UInt8.ofNat n) (front ++ rest) = (front.length, some c) := by
  rw [part, toNat_ofNat hn, hlead]
  dsimp only
  rw [hsize, h.follow_eq, Option.map_some, Char.ofNat_toNat]

theorem exists_lead (c : Char) : ∃ byte front, String.utf8EncodeChar c = byte :: front ∧
    ∀ rest, part byte (front ++ rest) = (front.length, some c) := by
  have hvalid : c.toNat < 0xD800 ∨ 0xDFFF < c.toNat ∧ c.toNat < 0x110000 := c.valid
  have hval : c.val.toNat = c.toNat := rfl
  have htail {n : Nat} : tailLow ≤ n % 64 + 128 ∧ n % 64 + 128 ≤ tailHigh := by
    unfold tailLow tailHigh
    omega
  unfold String.utf8EncodeChar
  rw [hval]
  dsimp only
  split_ifs with hone htwo hthree
  · exact ⟨_, [], rfl, part_of_follows (by omega) (lead?_one (by omega)) (.done _ _ _) rfl⟩
  · have hlead := @lead?_two (c.toNat / 64 % 32 + 192) (by omega) (by omega)
    exact ⟨_, _, rfl, part_of_follows (by omega) hlead (.last htail.1 htail.2 (by omega)) rfl⟩
  · have hlead := @lead?_three (c.toNat / 4096 % 16 + 224) (by omega) (by omega)
    refine ⟨_, _, rfl, part_of_follows (by omega) hlead (.next ?_ ?_ (.last htail.1 htail.2 (by omega))) rfl⟩
    · unfold tailLow
      split <;> omega
    · unfold tailHigh
      split <;> omega
  · have hlead := @lead?_four (c.toNat / 262144 % 8 + 240) (by omega) (by omega)
    refine ⟨_, _, rfl, part_of_follows (by omega) hlead
      (.next ?_ ?_ (.next htail.1 htail.2 (.last htail.1 htail.2 (by omega)))) rfl⟩
    · unfold tailLow
      split <;> omega
    · unfold tailHigh
      split <;> omega

theorem partsFrom_skip (found : List (Option Char)) (front rest : Bytes) :
    partsFrom found front.length (front ++ rest) = partsFrom found 0 rest := by
  induction front with
  | nil => rfl
  | cons byte front ih => exact ih

theorem partsFrom_encode (found : List (Option Char)) (text : List Char) :
    partsFrom found 0 (encode text) = found.reverse ++ text.map some := by
  induction text generalizing found with
  | nil => rw [encode, List.flatMap_nil, partsFrom, List.map_nil, List.append_nil]
  | cons c text ih =>
    obtain ⟨byte, front, hbytes, hpart⟩ := exists_lead c
    rw [encode, List.flatMap_cons, hbytes, List.cons_append, partsFrom, hpart]
    dsimp only
    rw [partsFrom_skip, ← encode, ih, List.reverse_cons, List.append_assoc]
    rfl

theorem parts_encode (text : List Char) : parts (encode text) = text.map some := partsFrom_encode [] text

theorem decodeLossy_encode (text : List Char) : decodeLossy (encode text) = text := by
  rw [decodeLossy, parts_encode, List.map_map]
  exact List.map_id text

theorem decode?_encode (text : List Char) : decode? (encode text) = some text := by
  rw [decode?, parts_encode]
  induction text with
  | nil => rfl
  | cons c text ih =>
    rw [List.map_cons, List.mapM_cons, ih]
    rfl

end WorkflowScript.Text.Utf8
