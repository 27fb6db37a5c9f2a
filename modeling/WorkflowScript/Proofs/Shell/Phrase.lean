import WorkflowScript.Proofs.Shell.Written
import WorkflowScript.Shell.ReadCommand

namespace WorkflowScript.Shell

open Reader

inductive Phrase : Chars → List Word → Prop where
  | done {gap : Chars} (hgap : ∀ c ∈ gap, isBlank c = true) : Phrase gap []
  | word {gap text rest : Chars} {word : Word} {words : List Word} (hgap : ∀ c ∈ gap, isBlank c = true)
      (hgapNe : gap ≠ []) (htext : text ≠ []) (hword : Written text word) (h : Phrase rest words) :
      Phrase (gap ++ (text ++ rest)) (word :: words)

variable {breaks n : Nat} {c : Char} {text rest more gap : Chars} {word : Word} {words : List Word}

section Ends

theorem ends_lineFeed : Ends ('\n' :: more) := by
  rintro c ⟨⟩
  exact .inr rfl

theorem Phrase.isBlank_of_mem_head? (h : Phrase text words) : ∀ c ∈ text.head?, isBlank c = true := by
  cases h with
  | done hgap => exact fun c hc => hgap c (List.mem_of_mem_head? hc)
  | @word gap text rest word words hgap hgapNe htext hword h =>
    obtain ⟨c, gap, rfl⟩ := List.exists_cons_of_ne_nil hgapNe
    rintro d ⟨⟩
    exact hgap c List.mem_cons_self

theorem Phrase.ends (h : Phrase text words) (more : Chars) : Ends (text ++ '\n' :: more) := by
  have hhead := h.isBlank_of_mem_head?
  cases text with
  | nil => exact ends_lineFeed
  | cons c text =>
    rintro d ⟨⟩
    exact .inl (hhead c rfl)

theorem Written.begins (h : Written text word) (hne : text ≠ []) (rest : Chars) : Begins (text ++ rest) := by
  cases h with
  | nil => exact absurd rfl hne
  | @bare c text word hc h =>
    have hbare := isBare_iff.mp hc
    have hmeta := hbare.isMeta
    simp only [isMeta, Bool.or_eq_false_iff, and_assoc] at hmeta
    exact .of_ne hmeta.1 hbare.backslash hbare.hash
  | escaped hc h => exact .of_backslash hc
  | single hinside h => exact .of_ne (by decide) (by decide) (by decide)
  | double hinside h => exact .of_ne (by decide) (by decide) (by decide)

theorem Written.word_ne_nil (h : Written text word) (hne : text ≠ []) : word ≠ [] := by
  cases h with
  | nil => exact absurd rfl hne
  | bare hc h => exact List.cons_ne_nil _ _
  | escaped hc h => exact List.cons_ne_nil _ _
  | single hinside h => exact List.cons_ne_nil _ _
  | double hinside h => exact List.cons_ne_nil _ _

end Ends

section Redirect

def opensRedirect (c : Char) : Bool := c == '<' || c == '>' || c == '&'

theorem Written.not_redirect (h : Written text word) (hends : Ends rest) :
    ∀ c ∈ ((text ++ rest).dropWhile Char.isDigit).head?, opensRedirect c = false := by
  induction h with
  | nil =>
    cases rest with
    | nil => exact fun _ h => nomatch h
    | cons c rest =>
      have hc : c = ' ' ∨ c = '\t' ∨ c = '\n' := by simpa [isBlank, or_assoc] using hends c rfl
      rcases hc with rfl | rfl | rfl <;> (rintro d ⟨⟩; rfl)
  | @bare c text word hc h ih =>
    cases hdigit : c.isDigit with
    | true => rwa [List.cons_append, List.dropWhile_cons_of_pos hdigit]
    | false =>
      rw [List.cons_append, List.dropWhile_cons_of_neg (by rw [hdigit]; exact Bool.false_ne_true)]
      rintro d ⟨⟩
      have hmeta := (isBare_iff.mp hc).isMeta
      simp only [isMeta, Bool.or_eq_false_iff, and_assoc] at hmeta
      simp [opensRedirect, hmeta]
  | escaped hc h ih => rintro d ⟨⟩; rfl
  | single hinside h ih => rintro d ⟨⟩; rfl
  | double hinside h ih => rintro d ⟨⟩; rfl

theorem find?_redirectOperators (h : ∀ c ∈ text.head?, opensRedirect c = false) :
    (redirectOperators.find? fun operator => operator.1.toList.isPrefixOf text) = none := by
  have hopens : (redirectOperators.all fun operator => operator.1.toList.head?.any opensRedirect) = true := rfl
  refine List.find?_eq_none.mpr fun operator hmem hprefix => ?_
  obtain ⟨c, hc, hopen⟩ := (Option.any_eq_true _ _).mp (List.all_eq_true.mp hopens operator hmem)
  obtain ⟨mark, hmark⟩ := List.head?_eq_some_iff.mp hc
  rw [hmark] at hprefix
  obtain ⟨left, rfl⟩ := List.isPrefixOf_iff_prefix.mp hprefix
  exact absurd hopen (by rw [h c rfl]; exact Bool.false_ne_true)

theorem Reader.Reads.redirect?_none (h : ∀ c ∈ (text.dropWhile Char.isDigit).head?, opensRedirect c = false) :
    Reads breaks (redirect? false) text none text := by
  refine .bind .whole ?_
  dsimp only
  rw [drop_length_takeWhile, find?_redirectOperators h]
  exact .pure none

end Redirect

section Simple

variable {command : SimpleCommand}

theorem Reader.Reads.simpleFrom_done (hgap : ∀ c ∈ gap, isBlank c = true) :
    Reads breaks (simpleFrom false (n + 1) command) (gap ++ '\n' :: more) command ('\n' :: more) := by
  have hnone : Reads breaks (redirect? false) ('\n' :: more) none ('\n' :: more) :=
    .redirect?_none (by rintro c ⟨⟩; rfl)
  rw [simpleFrom]
  refine .bind (.skipBlanks hgap .lineFeed) (.bind hnone (.bind (.wordIn_ends ends_lineFeed) ?_))
  rw [if_pos List.isEmpty_nil]
  exact .pure command

theorem Reader.Reads.simpleFrom_word (hgap : ∀ c ∈ gap, isBlank c = true) (htext : text ≠ [])
    (hword : Written text word) (hends : Ends rest) {found : SimpleCommand}
    (hkind : word.assignment? = none ∨ command.arguments ≠ [] ∧ command.declares = false) {left : Chars}
    (h : Reads breaks (simpleFrom false n (command.addWord word)) rest found left) :
    Reads breaks (simpleFrom false (n + 1) command) (gap ++ (text ++ rest)) found left := by
  have hempty : word.isEmpty = false := by
    simpa using hword.word_ne_nil htext
  rw [simpleFrom]
  refine .bind (.skipBlanks hgap (hword.begins htext rest)) ?_
  refine .bind (.redirect?_none (hword.not_redirect hends)) ?_
  refine .bind (.wordIn hword hends) ?_
  rw [hempty, if_neg Bool.false_ne_true]
  split
  · next assignment hassignment =>
    obtain ⟨hargs, hdeclares⟩ := hkind.resolve_left (by rw [hassignment]; exact Option.some_ne_none _)
    rw [if_neg (by simpa using hargs), if_neg (by rw [hdeclares]; exact Bool.false_ne_true)]
    exact h
  · exact h

theorem addWord_of_ne (h : command.arguments ≠ []) (word : Word) :
    command.addWord word = { command with arguments := command.arguments ++ [.word word] } := by
  obtain ⟨argument, arguments, harguments⟩ := List.exists_cons_of_ne_nil h
  rw [SimpleCommand.addWord, harguments]

theorem Reader.Reads.simpleFrom (h : Phrase text words) (hn : text.length ≤ n) (hargs : command.arguments ≠ [])
    (hdeclares : command.declares = false) :
    Reads breaks (Reader.simpleFrom false (n + 1) command) (text ++ '\n' :: more)
      { command with arguments := command.arguments ++ words.map .word } ('\n' :: more) := by
  induction h generalizing n command with
  | done hgap =>
    rw [List.map_nil, List.append_nil]
    exact .simpleFrom_done hgap
  | @word gap text rest word words hgap hgapNe htext hword h ih =>
    have hlength := List.length_pos_iff.mpr hgapNe
    simp only [List.length_append] at hn
    obtain ⟨n, rfl⟩ := Nat.exists_eq_add_of_le' (show 1 ≤ n by omega)
    have hnext : (command.addWord word).arguments ≠ [] := by simp [addWord_of_ne hargs]
    have hkept : (command.addWord word).declares = false := by rwa [addWord_of_ne hargs]
    have hlater := @ih n _ (by omega) hnext hkept
    rw [addWord_of_ne hargs] at hlater
    simp only [List.append_assoc] at hlater ⊢
    refine .simpleFrom_word hgap htext hword (h.ends more) (.inr ⟨hargs, hdeclares⟩) ?_
    rwa [addWord_of_ne hargs]

end Simple

end WorkflowScript.Shell
