import WorkflowScript.Text.Utf8

namespace WorkflowScript.Text

def bytes : List Char → Nat
  | [] => 0
  | c :: text => c.utf8Size + bytes text

theorem bytes_append (front text : List Char) : bytes (front ++ text) = bytes front + bytes text := by
  induction front with
  | nil => exact (Nat.zero_add _).symm
  | cons c front ih => rw [List.cons_append, bytes, bytes, ih, Nat.add_assoc]

theorem utf8ByteSize_ofList (text : List Char) : (String.ofList text).utf8ByteSize = bytes text := by
  induction text with
  | nil => rfl
  | cons c text ih =>
    rw [String.ofList_cons, String.utf8ByteSize_append, String.utf8ByteSize_singleton, ih]
    rfl

theorem utf8ByteSize_eq_bytes (text : String) : text.utf8ByteSize = bytes text.toList := by
  rw [← utf8ByteSize_ofList, String.ofList_toList]

theorem cutAtByte?_cons (c : Char) (n : Nat) (text : List Char) :
    cutAtByte? (c.utf8Size + n) (c :: text) = (cutAtByte? n text).map fun r => (c :: r.1, r.2) := by
  obtain ⟨size, hsize⟩ := Nat.exists_eq_succ_of_ne_zero (Nat.pos_iff_ne_zero.mp c.utf8Size_pos)
  have hshape : c.utf8Size + n = (size + n) + 1 := by omega
  rw [hshape, cutAtByte?, if_pos (by omega), ← hshape, Nat.add_sub_cancel_left]

theorem cutAtByte?_append (front rest : List Char) :
    cutAtByte? (bytes front) (front ++ rest) = some (front, rest) := by
  induction front with
  | nil => rw [bytes, cutAtByte?, List.nil_append]
  | cons c front ih =>
    rw [bytes, List.cons_append, cutAtByte?_cons, ih]
    rfl

theorem cutAtByte?_eq_some_iff {n : Nat} {text front rest : List Char} :
    cutAtByte? n text = some (front, rest) ↔ text = front ++ rest ∧ n = bytes front := by
  constructor
  · induction n, text using cutAtByte?.induct generalizing front rest with
    | case1 text =>
      intro h
      rw [cutAtByte?] at h
      cases h
      exact ⟨rfl, rfl⟩
    | case2 n =>
      intro h
      cases h
    | case3 n c text hsize ih =>
      intro h
      rw [cutAtByte?, if_pos hsize, Option.map_eq_some_iff] at h
      obtain ⟨⟨kept, behind⟩, hcut, heq⟩ := h
      obtain ⟨rfl, hn⟩ := ih hcut
      obtain ⟨rfl, rfl⟩ := Prod.mk.inj heq
      refine ⟨rfl, ?_⟩
      rw [bytes, ← hn]
      omega
    | case4 n c text hsize =>
      intro h
      rw [cutAtByte?, if_neg hsize] at h
      cases h
  · rintro ⟨rfl, rfl⟩
    exact cutAtByte?_append front rest

end WorkflowScript.Text
