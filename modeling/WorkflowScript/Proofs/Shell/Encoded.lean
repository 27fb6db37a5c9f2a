import Mathlib.Data.List.Basic
import WorkflowScript.Proofs.Shell.Spelling
import WorkflowScript.Proofs.Text.Utf8

namespace WorkflowScript.Shell

section Bytes

theorem toNat_ofNat_byte (byte : UInt8) : (Char.ofNat byte.toNat).toNat = byte.toNat := by
  have hbyte := byte.toNat_lt
  rw [Char.ofNat, dif_pos (.inl (by omega))]
  rfl

theorem toBytes_ofBytes (bytes : Text.Utf8.Bytes) : toBytes (ofBytes bytes) = bytes := by
  induction bytes with
  | nil => rfl
  | cons byte bytes ih =>
    have hbyte : UInt8.ofNat (Char.ofNat byte.toNat).toNat = byte := by
      rw [toNat_ofNat_byte, UInt8.ofNat_toNat]
    exact congrArg₂ List.cons hbyte ih

theorem toBytes_ofText (text : List Char) : toBytes (ofText text) = Text.Utf8.encode text := toBytes_ofBytes _

theorem ofText_append (front text : List Char) : ofText (front ++ text) = ofText front ++ ofText text := by
  rw [ofText, Text.Utf8.encode, List.flatMap_append, ofBytes, List.map_append]
  rfl

theorem ofText_cons (c : Char) (text : List Char) : ofText (c :: text) = ofText [c] ++ ofText text :=
  ofText_append [c] text

theorem ofText_flatten (texts : List (List Char)) : ofText texts.flatten = (texts.map ofText).flatten := by
  induction texts with
  | nil => rfl
  | cons text texts ih => rw [List.flatten_cons, ofText_append, ih, List.map_cons, List.flatten_cons]

end Bytes

def isWide (c : Char) : Bool := 0x80 ≤ c.toNat

variable {c d : Char} {text front value : Chars} {word : Word} {words : List Word}

section Letters

theorem ofText_singleton (c : Char) :
    ofText [c] = (String.utf8EncodeChar c).map fun byte => Char.ofNat byte.toNat := by
  rw [ofText, Text.Utf8.encode, List.flatMap_singleton]
  rfl

theorem ofText_narrow (h : isWide c = false) : ofText [c] = [c] := by
  have hval : c.val.toNat ≤ 127 := Nat.le_of_lt_succ (Nat.lt_of_not_le (of_decide_eq_false h))
  have hbyte : (UInt8.ofNat c.val.toNat).toNat = c.toNat := Text.Utf8.toNat_ofNat (by omega)
  rw [ofText_singleton, String.utf8EncodeChar, if_pos hval, List.map_singleton, hbyte, Char.ofNat_toNat]

theorem ofText_wide (h : isWide c = true) : ofText [c] ≠ [] ∧ ∀ d ∈ ofText [c], isWide d = true := by
  have hval : ¬ c.val.toNat ≤ 127 := Nat.not_le_of_lt (of_decide_eq_true h)
  have hwide {n : Nat} (hn : n < 256) (hlow : 0x80 ≤ n) : isWide (Char.ofNat (UInt8.ofNat n).toNat) = true := by
    rw [isWide, toNat_ofNat_byte, Text.Utf8.toNat_ofNat hn, decide_eq_true hlow]
  rw [ofText_singleton, String.utf8EncodeChar, if_neg hval]
  split_ifs
  · refine ⟨List.cons_ne_nil _ _, ?_⟩
    simp only [List.map_cons, List.map_nil, List.forall_mem_cons]
    exact ⟨hwide (by omega) (by omega), hwide (by omega) (by omega), List.forall_mem_nil _⟩
  · refine ⟨List.cons_ne_nil _ _, ?_⟩
    simp only [List.map_cons, List.map_nil, List.forall_mem_cons]
    exact ⟨hwide (by omega) (by omega), hwide (by omega) (by omega), hwide (by omega) (by omega),
      List.forall_mem_nil _⟩
  · refine ⟨List.cons_ne_nil _ _, ?_⟩
    simp only [List.map_cons, List.map_nil, List.forall_mem_cons]
    exact ⟨hwide (by omega) (by omega), hwide (by omega) (by omega), hwide (by omega) (by omega),
      hwide (by omega) (by omega), List.forall_mem_nil _⟩

theorem ofText_letter (c : Char) : (isWide c = false ∧ ofText [c] = [c]) ∨
    (isWide c = true ∧ ∃ d rest, ofText [c] = d :: rest ∧ isWide d = true ∧ ∀ e ∈ rest, isWide e = true) := by
  cases hc : isWide c with
  | false => exact .inl ⟨rfl, ofText_narrow hc⟩
  | true =>
    obtain ⟨hne, hwide⟩ := ofText_wide hc
    obtain ⟨d, rest, hrest⟩ := List.exists_cons_of_ne_nil hne
    rw [hrest] at hwide
    obtain ⟨hd, hrestWide⟩ := List.forall_mem_cons.mp hwide
    exact .inr ⟨rfl, d, rest, hrest, hd, hrestWide⟩

theorem ne_of_isWide (h : isWide c = true) (hd : isWide d = false) : c ≠ d := by
  rintro rfl
  rw [h] at hd
  cases hd

theorem ofText_narrows (h : ∀ c ∈ text, isWide c = false) : ofText text = text := by
  induction text with
  | nil => rfl
  | cons c text ih =>
    obtain ⟨hc, htext⟩ := List.forall_mem_cons.mp h
    rw [ofText_cons, ofText_narrow hc, ih htext]
    rfl

theorem ofText_ne_nil (h : text ≠ []) : ofText text ≠ [] := by
  obtain ⟨c, text, rfl⟩ := List.exists_cons_of_ne_nil h
  rw [ofText_cons]
  rcases ofText_letter c with ⟨-, hc⟩ | ⟨-, d, rest, hc, -, -⟩
  · rw [hc]
    exact List.cons_ne_nil _ _
  · rw [hc]
    exact List.cons_ne_nil _ _

theorem notMem_ofText (hd : isWide d = false) (h : d ∉ text) : d ∉ ofText text := by
  induction text with
  | nil => exact h
  | cons c text ih =>
    rw [List.mem_cons, not_or] at h
    rw [ofText_cons, List.mem_append, not_or]
    refine ⟨?_, ih h.2⟩
    cases hc : isWide c with
    | false =>
      rw [ofText_narrow hc]
      exact fun hmem => h.1 (List.mem_singleton.mp hmem)
    | true => exact fun hmem => ne_of_isWide ((ofText_wide hc).2 d hmem) hd rfl

end Letters

section Kinds

theorem isBare_of_isWide (h : isWide c = true) : isBare c = true := isBare_of h (by decide)

theorem isKept_of_isWide (h : isWide c = true) : isKept c = true :=
  isKept_iff.mpr ⟨ne_of_isWide h rfl, ne_of_isWide h rfl, ne_of_isWide h rfl, ne_of_isWide h rfl⟩

theorem isBare_ofText (h : isBare c = true) : ∀ d ∈ ofText [c], isBare d = true := by
  cases hc : isWide c with
  | false =>
    rw [ofText_narrow hc]
    exact List.forall_mem_singleton.mpr h
  | true => exact fun d hd => isBare_of_isWide ((ofText_wide hc).2 d hd)

theorem isKept_ofText (h : isKept c = true) : ∀ d ∈ ofText [c], isKept d = true := by
  cases hc : isWide c with
  | false =>
    rw [ofText_narrow hc]
    exact List.forall_mem_singleton.mpr h
  | true => exact fun d hd => isKept_of_isWide ((ofText_wide hc).2 d hd)

theorem isWide_of_isKept (h : isKept c = false) : isWide c = false := by
  rw [Bool.eq_false_iff]
  intro hc
  rw [isKept_of_isWide hc] at h
  cases h

end Kinds

section Spellings

theorem Inside.encoded (h : Inside text value) : Inside (ofText text) (ofText value) := by
  induction h with
  | nil => exact .nil
  | @kept c text value hc h ih =>
    rw [ofText_cons c text, ofText_cons c value]
    exact .kepts (isKept_ofText hc) ih
  | @escaped c text value hc h ih =>
    have hnarrow := ofText_narrow (isWide_of_isKept hc)
    rw [ofText_cons '\\', ofText_cons c text, ofText_cons c value, hnarrow]
    exact .escaped hc ih
  | @backslash c text value hc hbreak h ih =>
    have hkept := isKept_ofText hc
    rw [ofText_cons '\\' (c :: text), ofText_cons c text, ofText_cons '\\' (c :: value), ofText_cons c value]
    rcases ofText_letter c with ⟨-, hletter⟩ | ⟨-, d, rest, hletter, hd, -⟩
    · rw [hletter]
      exact .backslash hc hbreak ih
    · rw [hletter] at hkept ⊢
      obtain ⟨hdKept, hrest⟩ := List.forall_mem_cons.mp hkept
      exact .backslash hdKept (ne_of_isWide hd rfl) (.kepts hrest ih)

theorem Written.encoded (h : Written text word) :
    ∃ word', Written (ofText text) word' ∧ word'.value = ofText word.value := by
  induction h with
  | nil => exact ⟨[], .nil, rfl⟩
  | @bare c text word hc h ih =>
    obtain ⟨word', hword, hvalue⟩ := ih
    refine ⟨(ofText [c]).map .char ++ word', ?_, ?_⟩
    · rw [ofText_cons]
      exact .bares (isBare_ofText hc) hword
    · rw [value_append, value_name, hvalue, ← ofText_append]
      rfl
  | @escaped c text word hc h ih =>
    obtain ⟨word', hword, hvalue⟩ := ih
    rw [ofText_cons '\\', ofText_cons c]
    rcases ofText_letter c with ⟨-, hletter⟩ | ⟨-, d, rest, hletter, hd, hrest⟩
    · refine ⟨.quoted c :: word', ?_, ?_⟩
      · rw [hletter]
        exact .escaped hc hword
      · show c :: word'.value = ofText (c :: word.value)
        rw [hvalue, ofText_cons, hletter]
        rfl
    · refine ⟨.quoted d :: (rest.map .char ++ word'), ?_, ?_⟩
      · rw [hletter]
        exact .escaped (ne_of_isWide hd rfl) (.bares (fun e he => isBare_of_isWide (hrest e he)) hword)
      · show d :: Word.value (rest.map .char ++ word') = ofText (c :: word.value)
        rw [value_append, value_name, hvalue, ofText_cons c, hletter]
        rfl
  | @single inside text word hinside h ih =>
    obtain ⟨word', hword, hvalue⟩ := ih
    refine ⟨.ofText (ofText inside) ++ word', ?_, ?_⟩
    · rw [ofText_cons, ofText_append, ofText_cons]
      exact .single (notMem_ofText rfl hinside) hword
    · rw [value_append, value_append, value_ofText, value_ofText, hvalue, ofText_append]
  | @double inside value text word hinside h ih =>
    obtain ⟨word', hword, hvalue⟩ := ih
    refine ⟨.ofText (ofText value) ++ word', ?_, ?_⟩
    · rw [ofText_cons, ofText_append, ofText_cons]
      exact .double hinside.encoded hword
    · rw [value_append, value_append, value_ofText, value_ofText, hvalue, ofText_append]

theorem isWide_of_isBlank (h : isBlank c = true) : isWide c = false := by
  have hc : c = ' ' ∨ c = '\t' := by simpa [isBlank] using h
  rcases hc with rfl | rfl <;> rfl

theorem Phrase.encoded (h : Phrase text words) :
    ∃ words', Phrase (ofText text) words' ∧ words'.map Word.value = words.map fun word => ofText word.value := by
  induction h with
  | @done gap hgap =>
    rw [ofText_narrows fun c hc => isWide_of_isBlank (hgap c hc)]
    exact ⟨[], .done hgap, rfl⟩
  | @word gap text rest word words hgap hgapNe htext hword h ih =>
    obtain ⟨words', hwords, hvalues⟩ := ih
    obtain ⟨word', hword', hvalue⟩ := hword.encoded
    rw [ofText_append, ofText_append, ofText_narrows fun c hc => isWide_of_isBlank (hgap c hc)]
    refine ⟨word' :: words', .word hgap hgapNe (ofText_ne_nil htext) hword' hwords, ?_⟩
    rw [List.map_cons, List.map_cons, hvalue, hvalues]

end Spellings

end WorkflowScript.Shell
