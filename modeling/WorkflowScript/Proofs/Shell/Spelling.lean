import Mathlib.Tactic.Tauto
import WorkflowScript.Proofs.Shell.Literal
import WorkflowScript.Proofs.Shell.Phrase
import WorkflowScript.Proofs.Shell.Words

namespace WorkflowScript.Shell

variable {split : WordSplit} {c : Char} {text held value : Chars} {word : Word} {words : List Word}

namespace WordSplit

theorem isSeparator_of_isBlank (h : isBlank c = true) : isSeparator c = true := by
  rw [isSeparator, ← isBlank, h, Bool.true_or]

theorem isSeparator_of_isBare (h : isBare c = true) : isSeparator c = false := by
  have hmeta := (isBare_iff.mp h).isMeta
  simp only [isMeta, Bool.or_eq_false_iff, and_assoc] at hmeta
  rw [isSeparator, ← isBlank, hmeta.1, hmeta.2.1, Bool.false_or]

theorem run_silent {next : WordSplit} (h : split.step c = ([], next)) (text : Chars) :
    split.run (c :: text) = next.run text := by
  rw [run, h, List.nil_append]

theorem run_single (hinside : '\'' ∉ text) : run ⟨.single, some held⟩ text = ([], ⟨.single, some (held ++ text)⟩) := by
  induction text generalizing held with
  | nil => rw [run, List.append_nil]
  | cons c text ih =>
    rw [List.mem_cons, not_or] at hinside
    have hstep : step ⟨.single, some held⟩ c = ([], ⟨.single, some (held ++ [c])⟩) := if_neg (Ne.symm hinside.1)
    rw [run_silent hstep, ih hinside.2, List.append_assoc]
    rfl

theorem step_kept (hc : isKept c = true) :
    step ⟨.double, some held⟩ c = ([], ⟨.double, some (held ++ [c])⟩) := by
  obtain ⟨hdouble, hbackslash, -⟩ := isKept_iff.mp hc
  unfold step
  dsimp only
  split
  · exact absurd rfl hdouble
  · exact absurd rfl hbackslash
  · rfl

theorem isEscapable_eq (c : Char) : isEscapable c = !isKept c := by
  rw [Bool.eq_iff_iff, Bool.not_eq_true', isKept_eq_false_iff]
  simp only [isEscapable, backtick, Bool.or_eq_true, beq_iff_eq]
  tauto

theorem run_inside (h : Inside text value) :
    run ⟨.double, some held⟩ text = ([], ⟨.double, some (held ++ value)⟩) := by
  induction h generalizing held with
  | nil => rw [run, List.append_nil]
  | @kept c text value hc h ih =>
    rw [run_silent (step_kept hc), ih, List.append_assoc]
    rfl
  | @escaped c text value hc h ih =>
    have hbreak : c ≠ '\n' := by
      rintro rfl
      cases hc
    have hstep : step ⟨.escape true, some held⟩ c = ([], ⟨.double, some (held ++ [c])⟩) := by
      unfold step
      dsimp only
      rw [if_neg hbreak, isEscapable_eq, hc]
      rfl
    have hopen : step ⟨.double, some held⟩ '\\' = ([], ⟨.escape true, some held⟩) := rfl
    rw [run_silent hopen, run_silent hstep, ih, List.append_assoc]
    rfl
  | @backslash c text value hc hbreak h ih =>
    have hstep : step ⟨.escape true, some held⟩ c = ([], ⟨.double, some (held ++ ['\\', c])⟩) := by
      unfold step
      dsimp only
      rw [if_neg hbreak, isEscapable_eq, hc]
      rfl
    have hopen : step ⟨.double, some held⟩ '\\' = ([], ⟨.escape true, some held⟩) := rfl
    rw [run_silent hopen, run_silent hstep, ih, List.append_assoc]
    rfl

end WordSplit

theorem Written.run (h : Written text word) (hopen : split.enclosure = .none) :
    ∃ found, split.run text = ([], ⟨.none, found⟩) ∧ found.getD [] = split.word.getD [] ++ word.value ∧
      (text ≠ [] ∨ split.word.isSome = true → found.isSome = true) := by
  obtain ⟨enclosure, word?⟩ := split
  obtain rfl : enclosure = .none := hopen
  induction h generalizing word? with
  | nil => exact ⟨word?, rfl, (List.append_nil _).symm, fun h => h.resolve_left (absurd rfl)⟩
  | @bare c text word hc h ih =>
    have hbare := isBare_iff.mp hc
    have hstep : WordSplit.step ⟨.none, word?⟩ c = ([], ⟨.none, some (word?.getD [] ++ [c])⟩) :=
      WordSplit.step_plain rfl (WordSplit.isSeparator_of_isBare hc)
        (WordSplit.isQuoting_eq_false_iff.mpr ⟨hbare.single, hbare.double, hbare.backslash⟩)
    obtain ⟨found, hrun, hvalue, hsome⟩ := ih (some (word?.getD [] ++ [c]))
    refine ⟨found, (WordSplit.run_silent hstep text).trans hrun, ?_, fun _ => hsome (.inr rfl)⟩
    rw [hvalue, Option.getD_some, List.append_assoc]
    rfl
  | @escaped c text word hc h ih =>
    have hopen : WordSplit.step ⟨.none, word?⟩ '\\' = ([], ⟨.escape false, word?⟩) := rfl
    have hstep : WordSplit.step ⟨.escape false, word?⟩ c = ([], ⟨.none, some (word?.getD [] ++ [c])⟩) := if_neg hc
    obtain ⟨found, hrun, hvalue, hsome⟩ := ih (some (word?.getD [] ++ [c]))
    refine ⟨found, ?_, ?_, fun _ => hsome (.inr rfl)⟩
    · rw [WordSplit.run_silent hopen, WordSplit.run_silent hstep, hrun]
    · rw [hvalue, Option.getD_some, List.append_assoc]
      rfl
  | @single inside text word hinside h ih =>
    obtain ⟨found, hrun, hvalue, hsome⟩ := ih (some (word?.getD [] ++ inside))
    have hclose : WordSplit.step ⟨.single, some (word?.getD [] ++ inside)⟩ '\'' =
        ([], ⟨.none, some (word?.getD [] ++ inside)⟩) := rfl
    have hopen : WordSplit.step ⟨.none, word?⟩ '\'' = ([], ⟨.single, some (word?.getD [] ++ [])⟩) := rfl
    refine ⟨found, ?_, ?_, fun _ => hsome (.inr rfl)⟩
    · rw [WordSplit.run_silent hopen, List.append_nil, WordSplit.run_append, WordSplit.run_single hinside,
        WordSplit.run_silent hclose, hrun]
      rfl
    · rw [hvalue, Option.getD_some, value_append, value_ofText, List.append_assoc]
  | @double inside value text word hinside h ih =>
    obtain ⟨found, hrun, hvalue, hsome⟩ := ih (some (word?.getD [] ++ value))
    have hclose : WordSplit.step ⟨.double, some (word?.getD [] ++ value)⟩ '"' =
        ([], ⟨.none, some (word?.getD [] ++ value)⟩) := rfl
    have hopen : WordSplit.step ⟨.none, word?⟩ '"' = ([], ⟨.double, some (word?.getD [] ++ [])⟩) := rfl
    refine ⟨found, ?_, ?_, fun _ => hsome (.inr rfl)⟩
    · rw [WordSplit.run_silent hopen, List.append_nil, WordSplit.run_append, WordSplit.run_inside hinside,
        WordSplit.run_silent hclose, hrun]
      rfl
    · rw [hvalue, Option.getD_some, value_append, value_ofText, List.append_assoc]

theorem words_blanks {gap : Chars} (hgap : ∀ c ∈ gap, isBlank c = true) (text : Chars) :
    Shell.words (gap ++ text) = Shell.words text := by
  induction gap with
  | nil => rfl
  | cons c gap ih =>
    obtain ⟨hc, hgap⟩ := List.forall_mem_cons.mp hgap
    rw [← ih hgap, List.cons_append, Shell.words, WordSplit.words_cons,
      WordSplit.step_separator rfl (WordSplit.isSeparator_of_isBlank hc)]
    rfl

theorem words_append_blank {rest : Chars} (hclosed : isClosed text = true)
    (hrest : ∀ c ∈ rest.head?, isBlank c = true) :
    Shell.words (text ++ rest) = Shell.words text ++ Shell.words rest := by
  cases rest with
  | nil => rw [List.append_nil]; exact (List.append_nil _).symm
  | cons c rest =>
    have hc := hrest c rfl
    have hskip : Shell.words (c :: rest) = Shell.words rest :=
      words_blanks (List.forall_mem_singleton.mpr hc) rest
    rw [words_append_separator hclosed (WordSplit.isSeparator_of_isBlank hc), hskip]

theorem Phrase.words_eq (h : Phrase text words) : Shell.words text = words.map Word.value := by
  induction h with
  | @done gap hgap =>
    rw [← List.append_nil gap, words_blanks hgap]
    rfl
  | @word gap text rest word words hgap hgapNe htext hword h ih =>
    obtain ⟨found, hrun, hvalue, hsome⟩ := @Written.run .start text word hword rfl
    obtain ⟨value, rfl⟩ := Option.isSome_iff_exists.mp (hsome (.inl htext))
    have hclosed : isClosed text = true := by
      rw [isClosed_iff, hrun]
    have hone : Shell.words text = [word.value] := by
      rw [Shell.words, WordSplit.words_eq, hrun]
      exact congrArg (fun text => [text]) hvalue
    rw [words_blanks hgap, words_append_blank hclosed h.isBlank_of_mem_head?, hone, ih]
    rfl

end WorkflowScript.Shell
