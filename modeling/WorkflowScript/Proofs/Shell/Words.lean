import Mathlib.Data.List.Basic
import WorkflowScript.Shell.Words

namespace WorkflowScript.Shell

def isQuoting (c : Char) : Bool := c == '\'' || c == '"' || c == '\\'

namespace WordSplit

variable {split : WordSplit} {c : Char} {text word : List Char}

def run (split : WordSplit) : List Char → List (List Char) × WordSplit
  | [] => ([], split)
  | c :: text => ((split.step c).1 ++ ((split.step c).2.run text).1, ((split.step c).2.run text).2)

theorem words_cons (split : WordSplit) (c : Char) (text : List Char) :
    split.words (c :: text) = (split.step c).1 ++ (split.step c).2.words text := rfl

theorem words_append (split : WordSplit) (front rest : List Char) :
    split.words (front ++ rest) = (split.run front).1 ++ (split.run front).2.words rest := by
  induction front generalizing split with
  | nil => rfl
  | cons c front ih => rw [List.cons_append, words_cons, ih, run, List.append_assoc]

theorem words_eq (split : WordSplit) (text : List Char) :
    split.words text = (split.run text).1 ++ (split.run text).2.finish := by
  have happend := words_append split text []
  rwa [List.append_nil] at happend

theorem run_append (split : WordSplit) (front rest : List Char) : split.run (front ++ rest) =
    ((split.run front).1 ++ ((split.run front).2.run rest).1, ((split.run front).2.run rest).2) := by
  induction front generalizing split with
  | nil => rfl
  | cons c front ih => rw [List.cons_append, run, ih, run, List.append_assoc]

section Step

theorem isQuoting_eq_false_iff : isQuoting c = false ↔ c ≠ '\'' ∧ c ≠ '"' ∧ c ≠ '\\' := by
  simp [isQuoting, and_assoc]

theorem step_separator (h : split.enclosure = .none) (hc : isSeparator c = true) :
    split.step c = (split.word.toList, start) := by
  unfold step
  simp only [h, hc, if_true]

theorem step_plain (h : split.enclosure = .none) (hc : isSeparator c = false) (hquote : isQuoting c = false) :
    split.step c = ([], split.extend .none [c]) := by
  obtain ⟨hsingle, hdouble, hbackslash⟩ := isQuoting_eq_false_iff.mp hquote
  unfold step
  simp only [h, hc, Bool.false_eq_true, if_false]

theorem step_double (h : split.enclosure = .double) (hquote : isQuoting c = false) :
    split.step c = ([], split.extend .double [c]) := by
  obtain ⟨hsingle, hdouble, hbackslash⟩ := isQuoting_eq_false_iff.mp hquote
  unfold step
  simp only [h]

theorem finish_of_none (h : split.enclosure = .none) : split.finish = split.word.toList := by
  rw [finish, h]

end Step

section Plain

theorem run_plain (h : split.enclosure = .none) (htext : ∀ c ∈ text, isQuoting c = false) :
    (split.run text).2.enclosure = .none := by
  induction text generalizing split with
  | nil => exact h
  | cons c text ih =>
    obtain ⟨hc, htext⟩ := List.forall_mem_cons.mp htext
    refine ih ?_ htext
    cases hseparator : isSeparator c with
    | true => rw [step_separator h hseparator, start]
    | false => rw [step_plain h hseparator hc, extend]

theorem words_visible (h : split.enclosure = .none) (hword : split.word = some word)
    (htext : ∀ c ∈ text, isQuoting c = false) (hvisible : ∀ c ∈ text, isSeparator c = false) :
    split.words text = [word ++ text] := by
  induction text generalizing split word with
  | nil => rw [words, finish_of_none h, hword, List.append_nil, Option.toList_some]
  | cons c text ih =>
    obtain ⟨hc, htext⟩ := List.forall_mem_cons.mp htext
    obtain ⟨hcVisible, hvisible⟩ := List.forall_mem_cons.mp hvisible
    have hnext : (split.extend .none [c]).word = some (word ++ [c]) := by rw [extend, hword, Option.getD_some]
    rw [words_cons, step_plain h hcVisible hc, ih rfl hnext htext hvisible, List.append_assoc]
    rfl

theorem visible_of_mem_words (h : split.enclosure = .none) (htext : ∀ c ∈ text, isQuoting c = false)
    (hheld : ∀ c ∈ split.word.getD [], isSeparator c = false) :
    ∀ word ∈ split.words text, ∀ c ∈ word, isSeparator c = false := by
  have hword : ∀ word ∈ split.word.toList, ∀ c ∈ word, isSeparator c = false := by
    intro word hmem
    rwa [Option.mem_toList.mp hmem, Option.getD_some] at hheld
  induction text generalizing split with
  | nil => rwa [words, finish_of_none h]
  | cons c text ih =>
    obtain ⟨hc, htext⟩ := List.forall_mem_cons.mp htext
    rw [words_cons]
    cases hseparator : isSeparator c with
    | true =>
      rw [step_separator h hseparator]
      have hlater := @ih start rfl htext (List.forall_mem_nil _) (List.forall_mem_nil _)
      exact List.forall_mem_append.mpr ⟨hword, hlater⟩
    | false =>
      rw [step_plain h hseparator hc, List.nil_append]
      have hnext : ∀ d ∈ split.word.getD [] ++ [c], isSeparator d = false :=
        List.forall_mem_append.mpr ⟨hheld, List.forall_mem_singleton.mpr hseparator⟩
      exact @ih (split.extend .none [c]) rfl htext hnext (List.forall_mem_singleton.mpr hnext)

end Plain

theorem run_double (h : split.enclosure = .double) (hword : split.word = some word)
    (htext : ∀ c ∈ text, isQuoting c = false) : split.run text = ([], ⟨.double, some (word ++ text)⟩) := by
  induction text generalizing split word with
  | nil => rw [run, List.append_nil, ← h, ← hword]
  | cons c text ih =>
    obtain ⟨hc, htext⟩ := List.forall_mem_cons.mp htext
    have hnext : (split.extend .double [c]).word = some (word ++ [c]) := by rw [extend, hword, Option.getD_some]
    rw [run, step_double h hc, ih rfl hnext htext, List.append_assoc]
    rfl

theorem run_quoted (htext : ∀ c ∈ text, isQuoting c = false) :
    start.run ('"' :: (text ++ ['"'])) = ([], ⟨.none, some text⟩) := by
  have hopened : start.step '"' = ([], ⟨.double, some []⟩) := rfl
  have hclosed : (⟨.double, some text⟩ : WordSplit).step '"' = ([], ⟨.none, some text⟩) := rfl
  have hinside : (⟨.double, some []⟩ : WordSplit).run text = ([], ⟨.double, some text⟩) :=
    @run_double ⟨.double, some []⟩ text [] rfl rfl htext
  rw [run, hopened, run_append, hinside, run, hclosed]
  rfl

section Open

theorem step_cases (split : WordSplit) (c : Char) :
    (split.enclosure = .none ∧ split.step c = (split.word.toList, start)) ∨
      (∃ enclosure more, split.step c = ([], split.extend enclosure more)) ∨
      ∃ enclosure, split.step c = ([], { split with enclosure }) ∧
        (enclosure = .none ∨ enclosure = .escape false ∨ split.enclosure = .double ∨
          split.enclosure = .escape true) := by
  obtain ⟨enclosure, word⟩ := split
  unfold step
  cases enclosure with
  | none =>
    dsimp only
    split
    · exact .inl ⟨rfl, rfl⟩
    · split
      · exact .inr (.inl ⟨_, _, rfl⟩)
      · exact .inr (.inl ⟨_, _, rfl⟩)
      · exact .inr (.inr ⟨_, rfl, .inr (.inl rfl)⟩)
      · exact .inr (.inl ⟨_, _, rfl⟩)
  | single =>
    dsimp only
    split
    · exact .inr (.inr ⟨_, rfl, .inl rfl⟩)
    · exact .inr (.inl ⟨_, _, rfl⟩)
  | double =>
    dsimp only
    split
    · exact .inr (.inr ⟨_, rfl, .inl rfl⟩)
    · exact .inr (.inr ⟨_, rfl, .inr (.inr (.inl rfl))⟩)
    · exact .inr (.inl ⟨_, _, rfl⟩)
  | escape inDouble =>
    cases inDouble with
    | false =>
      dsimp only
      split
      · exact .inr (.inr ⟨_, rfl, .inl rfl⟩)
      · exact .inr (.inl ⟨_, _, rfl⟩)
    | true =>
      dsimp only
      split
      · exact .inr (.inr ⟨_, rfl, .inr (.inr (.inr rfl))⟩)
      · split
        · exact .inr (.inl ⟨_, _, rfl⟩)
        · exact .inr (.inl ⟨_, _, rfl⟩)

def HasWord (split : WordSplit) : Prop :=
  split.enclosure = .none ∨ split.enclosure = .escape false ∨ split.word.isSome = true

theorem HasWord.step (h : split.HasWord) (c : Char) : (split.step c).2.HasWord := by
  rcases step_cases split c with ⟨-, hstep⟩ | ⟨enclosure, more, hstep⟩ | ⟨enclosure, hstep, hopen⟩
  · rw [hstep]
    exact .inl rfl
  · rw [hstep]
    exact .inr (.inr rfl)
  · rw [hstep]
    rcases hopen with hnone | hescape | hquoted
    · exact .inl hnone
    · exact .inr (.inl hescape)
    · refine .inr (.inr ?_)
      rcases h with h | h | h
      · rw [h] at hquoted
        simp at hquoted
      · rw [h] at hquoted
        simp at hquoted
      · exact h

theorem HasWord.run (h : split.HasWord) (text : List Char) : (split.run text).2.HasWord := by
  induction text generalizing split with
  | nil => exact h
  | cons c text ih => exact ih (h.step c)

theorem exists_finish (hword : split.word = some word) : ∃ more, split.finish = [word ++ more] := by
  have hkept : split.word.toList = [word ++ []] := by rw [hword, List.append_nil, Option.toList_some]
  rw [finish]
  split
  · exact ⟨['\\'], by rw [extend, hword]; rfl⟩
  · exact ⟨[], hkept⟩

theorem exists_words_cons (hword : split.word = some word) (text : List Char) :
    ∃ more later, split.words text = (word ++ more) :: later := by
  induction text generalizing split word with
  | nil =>
    obtain ⟨more, hmore⟩ := exists_finish hword
    exact ⟨more, [], hmore⟩
  | cons c text ih =>
    rw [words_cons]
    rcases step_cases split c with ⟨-, hstep⟩ | ⟨enclosure, more, hstep⟩ | ⟨enclosure, hstep, -⟩
    · exact ⟨[], start.words text, by rw [hstep, hword, List.append_nil]; rfl⟩
    · have hnext : (split.extend enclosure more).word = some (word ++ more) := by
        rw [extend, hword, Option.getD_some]
      obtain ⟨further, later, hlater⟩ := ih hnext
      exact ⟨more ++ further, later, by rw [hstep, hlater, List.append_assoc]; rfl⟩
    · obtain ⟨more, later, hlater⟩ := @ih { split with enclosure } word hword
      exact ⟨more, later, by rw [hstep, hlater]; rfl⟩

theorem exists_words_of_extend {enclosure : Enclosure} {more : List Char}
    (h : split.step c = ([], split.extend enclosure more)) (rest : List Char) :
    ∃ further later, split.words (c :: rest) = (split.word.getD [] ++ more ++ further) :: later := by
  rw [words_cons, h]
  exact exists_words_cons rfl rest

theorem words_space_of_open (h : split.enclosure ≠ .none) (hhas : split.HasWord) (rest : List Char) :
    ∃ first later held, split.words (' ' :: rest) = first :: later ∧ split.finish = [held] ∧ first ≠ held := by
  obtain ⟨enclosure, word⟩ := split
  cases enclosure with
  | none => exact absurd rfl h
  | single =>
    obtain ⟨held, rfl⟩ : ∃ held, word = some held := by simpa [HasWord, Option.isSome_iff_exists] using hhas
    obtain ⟨further, later, hwords⟩ := @exists_words_of_extend ⟨.single, some held⟩ ' ' .single [' '] rfl rest
    exact ⟨_, later, held, hwords, rfl, by simp⟩
  | double =>
    obtain ⟨held, rfl⟩ : ∃ held, word = some held := by simpa [HasWord, Option.isSome_iff_exists] using hhas
    obtain ⟨further, later, hwords⟩ := @exists_words_of_extend ⟨.double, some held⟩ ' ' .double [' '] rfl rest
    exact ⟨_, later, held, hwords, rfl, by simp⟩
  | escape inDouble =>
    cases inDouble with
    | false =>
      obtain ⟨further, later, hwords⟩ :=
        @exists_words_of_extend ⟨.escape false, word⟩ ' ' .none [' '] rfl rest
      exact ⟨_, later, word.getD [] ++ ['\\'], hwords, rfl, by simp⟩
    | true =>
      obtain ⟨further, later, hwords⟩ :=
        @exists_words_of_extend ⟨.escape true, word⟩ ' ' .double ['\\', ' '] rfl rest
      exact ⟨_, later, word.getD [] ++ ['\\'], hwords, rfl, by simp⟩

end Open

end WordSplit

def isClosed (text : List Char) : Bool := (WordSplit.start.run text).2.enclosure == .none

section Texts

variable {c : Char} {front text rest : List Char}

theorem isClosed_iff : isClosed text = true ↔ (WordSplit.start.run text).2.enclosure = .none := beq_iff_eq

theorem words_append_separator (hclosed : isClosed front = true) (hc : WordSplit.isSeparator c = true)
    (rest : List Char) : words (front ++ c :: rest) = words front ++ words rest := by
  have hnone := isClosed_iff.mp hclosed
  have hfront : words front = (WordSplit.start.run front).1 ++ (WordSplit.start.run front).2.word.toList := by
    rw [words, WordSplit.words_eq, WordSplit.finish_of_none hnone]
  rw [words, WordSplit.words_append, WordSplit.words_cons, WordSplit.step_separator hnone hc, hfront,
    List.append_assoc]
  rfl

theorem isClosed_of_words_append_space {others : List (List Char)}
    (h : words (front ++ ' ' :: rest) = words front ++ others) : isClosed front = true := by
  rw [isClosed_iff]
  by_contra hopen
  have hhas : (WordSplit.start.run front).2.HasWord := WordSplit.HasWord.run (.inl rfl) front
  obtain ⟨first, later, held, hwords, hfinish, hne⟩ := WordSplit.words_space_of_open hopen hhas rest
  have hfront : words front = (WordSplit.start.run front).1 ++ [held] := by
    rw [words, WordSplit.words_eq, hfinish]
  rw [words, WordSplit.words_append, hwords, hfront, List.append_assoc] at h
  exact hne (List.cons.inj (List.append_cancel_left h)).1

theorem isClosed_plain (h : ∀ c ∈ text, isQuoting c = false) : isClosed text = true :=
  isClosed_iff.mpr (WordSplit.run_plain rfl h)

theorem words_plain_iff (hne : text ≠ []) (h : ∀ c ∈ text, isQuoting c = false) :
    words text = [text] ↔ ∀ c ∈ text, WordSplit.isSeparator c = false := by
  constructor
  · intro hwords
    have hvisible := @WordSplit.visible_of_mem_words .start text rfl h (List.forall_mem_nil _)
    rw [← words, hwords] at hvisible
    exact hvisible text (List.mem_singleton_self text)
  · intro hvisible
    obtain ⟨c, text, rfl⟩ := List.exists_cons_of_ne_nil hne
    obtain ⟨hc, htext⟩ := List.forall_mem_cons.mp h
    obtain ⟨hcVisible, hvisible⟩ := List.forall_mem_cons.mp hvisible
    rw [words, WordSplit.words_cons, WordSplit.step_plain rfl hcVisible hc,
      WordSplit.words_visible rfl rfl htext hvisible]
    rfl

theorem isClosed_quoted (h : ∀ c ∈ text, isQuoting c = false) : isClosed ('"' :: (text ++ ['"'])) = true := by
  rw [isClosed_iff, WordSplit.run_quoted h]

theorem words_quoted (h : ∀ c ∈ text, isQuoting c = false) : words ('"' :: (text ++ ['"'])) = [text] := by
  rw [words, WordSplit.words_eq, WordSplit.run_quoted h]
  rfl

end Texts

end WorkflowScript.Shell
