import Mathlib.Data.List.Forall2
import WorkflowScript.Proofs.Shell.Encoded
import WorkflowScript.Proofs.Shell.Run

namespace WorkflowScript.Shell

inductive Spoken : List Char → List Char → Prop where
  | blank : Spoken [] []
  | strict : Spoken "set -e".toList []
  | echo {text : List Char} {words : List Word} (h : Phrase text words) (hnul : '\x00' ∉ text)
      (hplain : ∀ word ∈ (Shell.words text).head?, Format.isEchoOption word = false) :
      Spoken ("echo".toList ++ text) ([' '].intercalate (Shell.words text) ++ ['\n'])

section Spoken

variable {line printed text : List Char} {lines printeds values : List (List Char)}

section Encoding

theorem ofText_intercalate (between : List Char) (texts : List (List Char)) :
    ofText (between.intercalate texts) = (ofText between).intercalate (texts.map ofText) := by
  rw [List.intercalate, ofText_flatten, List.intercalate]
  induction texts with
  | nil => rfl
  | cons text texts ih =>
    cases texts with
    | nil => rfl
    | cons next texts =>
      simp only [List.intersperse_cons_cons, List.map_cons, List.flatten_cons] at ih ⊢
      rw [ih]

theorem ofText_lines (lines : List (List Char)) :
    ofText (lines.flatMap (· ++ ['\n'])) = (lines.map ofText).flatMap (· ++ ['\n']) := by
  induction lines with
  | nil => rfl
  | cons line lines ih =>
    rw [List.flatMap_cons, ofText_append, ofText_append, ih, List.map_cons, List.flatMap_cons]
    rfl

theorem ofText_of_narrow (h : ∀ c ∈ ofText text, isWide c = false) : ofText text = text := by
  refine ofText_narrows fun c hc => ?_
  rw [Bool.eq_false_iff]
  intro hwide
  obtain ⟨front, back, rfl⟩ := List.append_of_mem hc
  obtain ⟨hne, hbytes⟩ := ofText_wide hwide
  obtain ⟨d, hd⟩ := List.exists_mem_of_ne_nil _ hne
  have hmem : d ∈ ofText (front ++ c :: back) := by
    rw [ofText_append, ofText_cons]
    exact List.mem_append_right _ (List.mem_append_left _ hd)
  exact ne_of_isWide (hbytes d hd) (h d hmem) rfl

end Encoding

section Options

theorem isWide_of_isEchoOption (h : Format.isEchoOption text = true) : ∀ c ∈ text, isWide c = false := by
  unfold Format.isEchoOption at h
  split at h
  · next d letters =>
    refine List.forall_mem_cons.mpr ⟨rfl, fun c hc => ?_⟩
    have hletter := List.all_eq_true.mp h c hc
    simp only [Bool.or_eq_true, beq_iff_eq] at hletter
    rcases hletter with (rfl | rfl) | rfl <;> rfl
  · cases h

theorem isEchoOption_ofText (h : Format.isEchoOption text = false) : Format.isEchoOption (ofText text) = false := by
  rw [Bool.eq_false_iff]
  intro hoption
  rw [ofText_of_narrow (isWide_of_isEchoOption hoption), h] at hoption
  cases hoption

theorem Format.echo_plain (h : ∀ word ∈ values.head?, Format.isEchoOption word = false) :
    Format.echo values = [' '].intercalate values ++ ['\n'] := by
  cases values with
  | nil => rfl
  | cons word values =>
    have hstyle : Format.echoStyle ⟨true, false⟩ (word :: values) = (⟨true, false⟩, word :: values) := by
      rw [Format.echoStyle, h word rfl]
      rfl
    rw [Format.echo, hstyle]
    rfl

theorem Format.echo_ofText (h : ∀ word ∈ values.head?, Format.isEchoOption word = false) :
    Format.echo (values.map ofText) = ofText ([' '].intercalate values ++ ['\n']) := by
  have hplain : ∀ word ∈ (values.map ofText).head?, Format.isEchoOption word = false := by
    cases values with
    | nil => exact fun _ hmem => nomatch hmem
    | cons word values =>
      rintro _ ⟨⟩
      exact isEchoOption_ofText (h word rfl)
  rw [Format.echo_plain hplain, ofText_append, ofText_intercalate]
  rfl

end Options

theorem Spoken.encoded (h : Spoken line printed) : Says (ofText line) (ofText printed) := by
  cases h with
  | blank => exact .blank
  | strict => exact .strict
  | @echo text words h hnul hplain =>
    obtain ⟨words', hphrase, hvalues⟩ := h.encoded
    have hshown : words'.map Word.value = (Shell.words text).map ofText := by
      rw [hvalues, h.words_eq, List.map_map]
      rfl
    rw [ofText_append, ← Format.echo_ofText hplain, ← hshown]
    exact .echo hphrase

theorem Spoken.notMem_nul (h : Spoken line printed) : '\x00' ∉ line := by
  cases h with
  | blank => exact List.not_mem_nil
  | strict => decide
  | echo h hnul hplain => exact List.not_mem_append (by decide) hnul

theorem notMem_nul_of_spoken (h : List.Forall₂ Spoken lines printeds) :
    '\x00' ∉ lines.flatMap (· ++ ['\n']) := by
  induction h with
  | nil => exact List.not_mem_nil
  | cons hline hlines ih =>
    rw [List.flatMap_cons]
    exact List.not_mem_append (List.not_mem_append hline.notMem_nul (by decide)) ih

theorem run_spoken (h : List.Forall₂ Spoken lines printeds) (setting : Setting) (name text : String)
    (htext : text.toList ++ ['\n'] = lines.flatMap (· ++ ['\n'])) :
    Shell.run setting name text = ⟨0, Text.Utf8.encode printeds.flatten, [], setting.files⟩ := by
  have hsays : List.Forall₂ Says (lines.map ofText) (printeds.map ofText) :=
    List.forall₂_map_left_iff.mpr (List.forall₂_map_right_iff.mpr (h.imp fun _ _ => Spoken.encoded))
  have hencoded : ofString text ++ ['\n'] = (lines.map ofText).flatMap (· ++ ['\n']) := by
    rw [← ofText_lines, ← htext, ofText_append]
    rfl
  have hnul : '\x00' ∉ text.toList ++ ['\n'] := by
    rw [htext]
    exact notMem_nul_of_spoken h
  have hkept : (ofString text).filter (· != '\x00') = ofString text := by
    refine List.filter_eq_self.mpr fun c hc => bne_iff_ne.mpr ?_
    rintro rfl
    exact notMem_ofText rfl (fun hmem => hnul (List.mem_append_left _ hmem)) hc
  rw [run_lines hsays setting name text (by rw [hkept]; exact hencoded), ← ofText_flatten, toBytes_ofText]

end Spoken

def isPlain (c : Char) : Bool := isBare c && c != '\x00'

structure IsPlainWord (word : List Char) : Prop where
  ne_nil : word ≠ []
  plain : ∀ c ∈ word, isPlain c = true

structure ArePlain (words : List (List Char)) : Prop where
  word : ∀ word ∈ words, IsPlainWord word
  no_option : ∀ word ∈ words.head?, Format.isEchoOption word = false

def IsPlainText (text : List Char) : Prop :=
  ∃ words, words ≠ [] ∧ ArePlain words ∧ [' '].intercalate words = text

section Plain

variable {c : Char} {text word : List Char} {words : List (List Char)}

section Letters

theorem isBare_of_isPlain (h : isPlain c = true) : isBare c = true := (Bool.and_eq_true_iff.mp h).1

theorem isPlain_of_isAlphanum (h : c.isAlphanum = true) : isPlain c = true := by
  have hnul : c ≠ '\x00' := by
    rintro rfl
    cases h
  rw [isPlain, isBare_of h (by decide), bne_iff_ne.mpr hnul]
  rfl

theorem IsPlainWord.of_all (hne : word.isEmpty = false) (h : word.all isPlain = true) : IsPlainWord word :=
  ⟨List.isEmpty_eq_false_iff.mp hne, List.all_eq_true.mp h⟩

theorem IsPlainWord.notMem_nul (h : IsPlainWord word) : '\x00' ∉ word := fun hmem =>
  absurd (h.plain _ hmem) (by decide)

theorem IsPlainWord.append {more : List Char} (h : IsPlainWord word) (hmore : ∀ c ∈ more, isPlain c = true) :
    IsPlainWord (word ++ more) :=
  ⟨List.append_ne_nil_of_left_ne_nil h.ne_nil more, List.forall_mem_append.mpr ⟨h.plain, hmore⟩⟩

theorem isEchoOption_of_mem (h : '=' ∈ text) : Format.isEchoOption text = false := by
  unfold Format.isEchoOption
  split
  · next c letters =>
    have hletters : '=' ∈ c :: letters := (List.mem_cons.mp h).resolve_left (by decide)
    rw [Bool.eq_false_iff]
    exact fun hall => absurd (List.all_eq_true.mp hall '=' hletters) (by decide)
  · rfl

theorem isEchoOption_of_head? (h : text.head? ≠ some '-') : Format.isEchoOption text = false := by
  unfold Format.isEchoOption
  split
  · exact absurd rfl h
  · rfl

end Letters

theorem IsPlainWord.isPlainText (h : IsPlainWord word) (hoption : Format.isEchoOption word = false) :
    IsPlainText word := by
  refine ⟨[word], List.cons_ne_nil _ _, ⟨List.forall_mem_singleton.mpr h, ?_⟩, List.append_nil word⟩
  rintro _ ⟨⟩
  exact hoption

theorem Phrase.blank {words : List Word} (h : Phrase text words) : Phrase (' ' :: text) words := by
  cases h with
  | done hgap => exact .done (List.forall_mem_cons.mpr ⟨rfl, hgap⟩)
  | word hgap hgapNe htext hword h =>
    exact .word (List.forall_mem_cons.mpr ⟨rfl, hgap⟩) (List.cons_ne_nil _ _) htext hword h

structure Spells (text : List Char) (values : List (List Char)) : Prop where
  phrase : ∃ words, Phrase text words ∧ words.map Word.value = values
  no_nul : '\x00' ∉ text

namespace Spells

variable {rest inside : List Char} {values : List (List Char)}

theorem nil : Spells [] [] := ⟨⟨[], .done (List.forall_mem_nil _), rfl⟩, List.not_mem_nil⟩

theorem next {word : Word} (hword : Written text word) (hne : text ≠ []) (hnul : '\x00' ∉ text)
    (h : Spells rest values) : Spells (' ' :: (text ++ rest)) (word.value :: values) := by
  obtain ⟨words, hphrase, rfl⟩ := h.phrase
  refine ⟨⟨word :: words, ?_, rfl⟩, ?_⟩
  · exact .word (List.forall_mem_singleton.mpr rfl) (List.cons_ne_nil _ _) hne hword hphrase
  · exact List.not_mem_cons_of_ne_of_not_mem (by decide) (List.not_mem_append hnul h.no_nul)

theorem blank (h : Spells text values) : Spells (' ' :: text) values := by
  obtain ⟨words, hphrase, hvalues⟩ := h.phrase
  exact ⟨⟨words, hphrase.blank, hvalues⟩, List.not_mem_cons_of_ne_of_not_mem (by decide) h.no_nul⟩

theorem plain (hword : IsPlainWord word) (h : Spells rest values) :
    Spells (' ' :: (word ++ rest)) (word :: values) := by
  have hwritten := Written.letters fun c hc => isBare_of_isPlain (hword.plain c hc)
  have hspells := next hwritten hword.ne_nil hword.notMem_nul h
  rwa [value_name] at hspells

theorem plains (h : ∀ word ∈ words, IsPlainWord word) : Spells (words.flatMap (' ' :: ·)) words := by
  induction words with
  | nil => exact nil
  | cons word words ih =>
    obtain ⟨hword, hwords⟩ := List.forall_mem_cons.mp h
    exact plain hword (ih hwords)

theorem single (hquote : '\'' ∉ inside) (hnul : '\x00' ∉ inside) (hword : IsPlainWord word)
    (h : Spells rest values) :
    Spells (' ' :: '\'' :: (inside ++ '\'' :: (word ++ rest))) ((inside ++ word) :: values) := by
  have hwritten := Written.letters fun c hc => isBare_of_isPlain (hword.plain c hc)
  have hmarks : '\x00' ∉ '\'' :: (inside ++ '\'' :: word) := by
    simp [hnul, hword.notMem_nul]
  have hspells := next (.single hquote hwritten) (List.cons_ne_nil _ _) hmarks h
  rwa [value_append, value_ofText, value_name, List.cons_append, List.append_assoc, List.cons_append] at hspells

theorem double (hword : IsPlainWord word) (hkept : ∀ c ∈ inside, isKept c = true) (hnul : '\x00' ∉ inside)
    (h : Spells rest values) :
    Spells (' ' :: (word ++ '"' :: (inside ++ '"' :: rest))) ((word ++ inside) :: values) := by
  have hinside := Inside.kepts hkept .nil
  rw [List.append_nil] at hinside
  have hwritten := Written.bares (fun c hc => isBare_of_isPlain (hword.plain c hc)) (.double hinside .nil)
  have hmarks : '\x00' ∉ word ++ '"' :: (inside ++ ['"']) := by
    simp [hnul, hword.notMem_nul]
  have hspells := next hwritten (by simp) hmarks h
  rw [value_append, value_name, List.append_nil, value_ofText] at hspells
  simpa only [List.append_assoc, List.cons_append, List.nil_append] using hspells

theorem spoken (h : Spells text values) (hplain : ∀ word ∈ values.head?, Format.isEchoOption word = false) :
    Spoken ("echo".toList ++ text) ([' '].intercalate values ++ ['\n']) := by
  obtain ⟨words, hphrase, rfl⟩ := h.phrase
  rw [← hphrase.words_eq] at hplain ⊢
  exact .echo hphrase h.no_nul hplain

end Spells

theorem blank_intercalate (h : words ≠ []) : ' ' :: [' '].intercalate words = words.flatMap (' ' :: ·) := by
  induction words with
  | nil => exact absurd rfl h
  | cons word words ih =>
    cases words with
    | nil => rfl
    | cons next words =>
      rw [List.flatMap_cons, ← ih (List.cons_ne_nil _ _), List.intercalate_cons_cons, List.append_assoc]
      rfl

theorem Spoken.plain (h : IsPlainText text) : Spoken ("echo ".toList ++ text) (text ++ ['\n']) := by
  obtain ⟨words, hne, hplain, rfl⟩ := h
  have hspoken := (Spells.plains hplain.word).spoken hplain.no_option
  rwa [← blank_intercalate hne] at hspoken

end Plain

end WorkflowScript.Shell
