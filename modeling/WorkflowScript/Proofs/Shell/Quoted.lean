import WorkflowScript.Proofs.Shell.Literal
import WorkflowScript.Proofs.Shell.Spelling
import WorkflowScript.Shell.Quote

namespace WorkflowScript.Shell.Quote

variable {text written : Chars}

def isPrinted (c : Char) : Bool := !(c < ' ' || '\x7f' ≤ c)

def Quotes (written text : Chars) : Prop := ∃ word, Written written word ∧ word.value = text

theorem any_unprinted (h : ∀ c ∈ text, isPrinted c = true) :
    (text.any fun c => c < ' ' || '\x7f' ≤ c) = false :=
  List.any_eq_false.mpr fun c hc => by
    rw [Bool.not_eq_true, ← Bool.not_eq_true']
    exact h c hc

namespace Quotes

theorem escaped {c : Char} (hc : c ≠ '\n') (h : Quotes written text) : Quotes ('\\' :: c :: written) (c :: text) := by
  obtain ⟨word, hword, rfl⟩ := h
  exact ⟨.quoted c :: word, .escaped hc hword, rfl⟩

theorem bare {c : Char} (hc : isBare c = true) (h : Quotes written text) : Quotes (c :: written) (c :: text) := by
  obtain ⟨word, hword, rfl⟩ := h
  exact ⟨.char c :: word, .bare hc hword, rfl⟩

theorem single {inside : Chars} (hinside : '\'' ∉ inside) (h : Quotes written text) :
    Quotes ('\'' :: (inside ++ '\'' :: written)) (inside ++ text) := by
  obtain ⟨word, hword, rfl⟩ := h
  exact ⟨.ofText inside ++ word, .single hinside hword, by rw [value_append, value_ofText]⟩

theorem ne_nil (h : Quotes written text) (hne : text ≠ []) : written ≠ [] := by
  rintro rfl
  obtain ⟨word, hword, rfl⟩ := h
  cases hword
  exact hne rfl

theorem words_eq (h : Quotes written text) (hne : written ≠ []) : words written = [text] := by
  obtain ⟨word, hword, rfl⟩ := h
  have hphrase : Phrase (' ' :: (written ++ [])) [word] :=
    .word (List.forall_mem_singleton.mpr rfl) (List.cons_ne_nil _ _) hne hword (.done (List.forall_mem_nil _))
  have hone := hphrase.words_eq
  rw [List.append_nil] at hone
  exact (words_blanks (List.forall_mem_singleton.mpr rfl) written).symm.trans hone

theorem exists_word {perform : Perform} {breaks : Nat} {rest : Chars} (h : Quotes written text) (hne : written ≠ [])
    (hends : Reader.Ends rest) : ∃ word, Reader.Reads breaks (Reader.wordIn (.bare false)) (written ++ rest) word rest ∧
      ∀ s : State, "extglob" ∉ s.process.habits → Execution.Gives (Execution.expand perform word) s [text] s := by
  obtain ⟨word, hword, rfl⟩ := h
  exact ⟨word, .wordIn hword hends, fun s hhabits =>
    Execution.expand_literal hhabits hword.isLiteral (hword.word_ne_nil hne)⟩

end Quotes

section Single

theorem quotes_inside {front : Chars} (hfront : '\'' ∉ front) (text : Chars) :
    Quotes ('\'' :: (front ++ (text.flatMap (fun c => if c = '\'' then "'\\''".toList else [c]) ++ ['\''])))
      (front ++ text) := by
  induction text generalizing front with
  | nil => exact .single hfront ⟨[], .nil, rfl⟩
  | cons c text ih =>
    rw [List.flatMap_cons]
    by_cases hc : c = '\''
    · rw [if_pos hc, hc]
      exact .single hfront (.escaped (by decide) (ih List.not_mem_nil))
    · have hfront' : '\'' ∉ front ++ [c] := by
        rw [List.mem_append, List.mem_singleton, not_or]
        exact ⟨hfront, Ne.symm hc⟩
      have hlater := ih hfront'
      rw [List.append_assoc, List.append_assoc] at hlater
      rw [if_neg hc]
      exact hlater

theorem quotes_inQuotes (h : ∀ c ∈ text, isPrinted c = true) : Quotes (inQuotes text) text := by
  rw [inQuotes, any_unprinted h, if_neg Bool.false_ne_true]
  exact quotes_inside List.not_mem_nil text

theorem words_inQuotes (h : ∀ c ∈ text, isPrinted c = true) : words (inQuotes text) = [text] := by
  cases text with
  | nil => rfl
  | cons c text => exact (quotes_inQuotes h).words_eq ((quotes_inQuotes h).ne_nil (List.cons_ne_nil c text))

end Single

section Backslash

def isKeptByEscape (c : Char) : Bool :=
  !(" \t\n'\"\\|&;()<>!\x7b\x7d*[]?^$\x60,".toList.contains c) && c != '~' && c != '#'

theorem isBare_of_isKeptByEscape {c : Char} (h : isKeptByEscape c = true) : isBare c = true :=
  isBare_of h rfl

theorem quotes_escape {c : Char} (hc : isPrinted c = true) (hmark : c ≠ '~' ∧ c ≠ '#') (h : Quotes written text) :
    Quotes (withBackslashes.escape c ++ written) (c :: text) := by
  rw [withBackslashes.escape]
  split
  · refine .escaped (fun hbreak => ?_) h
    rw [hbreak] at hc
    cases hc
  · next hset =>
    refine .bare (isBare_of_isKeptByEscape ?_) h
    rw [isKeptByEscape, Bool.and_eq_true, Bool.and_eq_true, Bool.not_eq_true', bne_iff_ne, bne_iff_ne]
    exact ⟨⟨Bool.not_eq_true _ ▸ hset, hmark.1⟩, hmark.2⟩

theorem quotes_flatMap_escape (h : ∀ c ∈ text, isPrinted c = true) (hmarks : ∀ c ∈ text, c ≠ '~' ∧ c ≠ '#') :
    Quotes (text.flatMap withBackslashes.escape) text := by
  induction text with
  | nil => exact ⟨[], .nil, rfl⟩
  | cons c text ih =>
    obtain ⟨hc, h⟩ := List.forall_mem_cons.mp h
    obtain ⟨hmark, hmarks⟩ := List.forall_mem_cons.mp hmarks
    exact quotes_escape hc hmark (ih h hmarks)

theorem quotes_withBackslashes (h : ∀ c ∈ text, isPrinted c = true)
    (hmarks : ∀ c ∈ text.tail, c ≠ '~' ∧ c ≠ '#') : Quotes (withBackslashes text) text := by
  cases text with
  | nil => exact .single List.not_mem_nil ⟨[], .nil, rfl⟩
  | cons c text =>
    rw [withBackslashes, any_unprinted h, if_neg Bool.false_ne_true]
    obtain ⟨hc, h⟩ := List.forall_mem_cons.mp h
    have hrest := quotes_flatMap_escape h hmarks
    change Quotes (withBackslashes.escapeFirst c ++ text.flatMap withBackslashes.escape) (c :: text)
    rw [withBackslashes.escapeFirst]
    split
    · next hmark =>
      refine .escaped (fun hbreak => ?_) hrest
      rw [hbreak] at hc
      cases hc
    · next hmark => exact quotes_escape hc (not_or.mp hmark) hrest

theorem words_withBackslashes (h : ∀ c ∈ text, isPrinted c = true)
    (hmarks : ∀ c ∈ text.tail, c ≠ '~' ∧ c ≠ '#') : words (withBackslashes text) = [text] := by
  cases text with
  | nil => rfl
  | cons c text =>
    have hquotes := quotes_withBackslashes h hmarks
    exact hquotes.words_eq (hquotes.ne_nil (List.cons_ne_nil c text))

end Backslash

end WorkflowScript.Shell.Quote
