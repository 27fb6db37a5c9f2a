import WorkflowScript.Proofs.Shell.Execution
import WorkflowScript.Proofs.Shell.Written
import WorkflowScript.Shell.Expand

namespace WorkflowScript.Shell

inductive Part.IsLiteral : Part → Prop where
  | char {c : Char} (hc : isBare c = true) : IsLiteral (.char c)
  | quoted (c : Char) : IsLiteral (.quoted c)
  | quotes : IsLiteral .quotes

namespace Part

def piece : Part → Piece
  | .char c => .char ⟨c, false⟩
  | .quoted c => .char ⟨c, true⟩
  | _ => .present

def marks : Part → List Marked
  | .char c => [⟨c, false⟩]
  | .quoted c => [⟨c, true⟩]
  | _ => []

end Part

namespace Word

def IsLiteral (word : Word) : Prop := ∀ part ∈ word, Part.IsLiteral part

def marks (word : Word) : List Marked := word.flatMap Part.marks

def value (word : Word) : Chars := word.marks.map Marked.char

end Word

variable {s : State} {perform : Perform} {part : Part} {word : Word} {n : Nat}

section Splitting

open Piece

structure Piece.Splitting.Holds (splitting : Splitting) (marks : List Marked) : Prop where
  fields : splitting.fields = []
  text : (splitting.field.getD []).reverse = marks

theorem Piece.Splitting.Holds.take {separators : Chars} {splitting : Splitting} {marks : List Marked}
    (h : splitting.Holds marks) (hpart : part.IsLiteral) :
    (splitting.take separators part.piece).Holds (marks ++ part.marks) := by
  cases hpart with
  | char hc => exact ⟨h.fields, by simp [Part.piece, Part.marks, Splitting.take, Splitting.add, h.text]⟩
  | quoted c => exact ⟨h.fields, by simp [Part.piece, Part.marks, Splitting.take, Splitting.add, h.text]⟩
  | quotes =>
    simp only [Part.piece, Part.marks, Splitting.take, Splitting.settle, List.append_nil]
    split
    · exact ⟨h.fields, h.text⟩
    · exact ⟨h.fields, h.text⟩

theorem Piece.Splitting.shown_take {separators : Chars} (splitting : Splitting) (hpart : part.IsLiteral) :
    (splitting.take separators part.piece).field.isSome = true ∨
      (splitting.take separators part.piece).isPresent = true := by
  cases hpart with
  | char hc => exact .inl rfl
  | quoted c => exact .inl rfl
  | quotes => exact .inr rfl

theorem Piece.Splitting.Holds.close {splitting : Splitting} {marks : List Marked} (h : splitting.Holds marks)
    (hshown : splitting.field.isSome = true ∨ splitting.isPresent = true) :
    splitting.close.fields = [marks] := by
  obtain ⟨fields, field, isPresent, afterSpace⟩ := splitting
  obtain ⟨rfl, rfl⟩ := h
  cases field with
  | some field => cases isPresent <;> rfl
  | none =>
    obtain rfl : isPresent = true := hshown.resolve_left (by exact Bool.false_ne_true)
    rfl

theorem Piece.Splitting.Holds.run {separators : Chars} {splitting : Splitting} {marks : List Marked}
    (hword : word.IsLiteral) (h : splitting.Holds marks)
    (hshown : splitting.field.isSome = true ∨ splitting.isPresent = true) :
    ((word.map Part.piece).foldl (Splitting.take separators) splitting).close.fields = [marks ++ word.marks] := by
  induction word generalizing splitting marks with
  | nil =>
    rw [Word.marks, List.flatMap_nil, List.append_nil]
    exact h.close hshown
  | cons part word ih =>
    obtain ⟨hpart, hword⟩ := List.forall_mem_cons.mp hword
    rw [List.map_cons, List.foldl_cons, ih hword (h.take hpart) (shown_take splitting hpart), Word.marks,
      Word.marks, List.flatMap_cons, List.append_assoc]

theorem fields_literal {separators : Chars} (h : word.IsLiteral) (hne : word ≠ []) :
    Piece.fields separators (word.map Part.piece) = [word.marks] := by
  obtain ⟨part, word, rfl⟩ := List.exists_cons_of_ne_nil hne
  obtain ⟨hpart, hword⟩ := List.forall_mem_cons.mp h
  have hstart : Splitting.start.Holds [] := ⟨rfl, rfl⟩
  rw [Piece.fields, List.map_cons, List.foldl_cons,
    (hstart.take hpart).run hword (Splitting.shown_take _ hpart), List.nil_append]
  rfl

end Splitting

section Reading

theorem spanPlain_spec (kind : Char → Bool) (word : Word) :
    word = (Word.spanPlain kind word).1.map .char ++ (Word.spanPlain kind word).2 := by
  induction word with
  | nil => rfl
  | cons part word ih =>
    cases part with
    | char c =>
      rw [Word.spanPlain]
      split
      · rw [List.map_cons, List.cons_append, ← ih]
      · rfl
    | quoted c => rfl
    | quotes => rfl
    | expansion expansion isQuoted => rfl

theorem isPatternFrom_literal (h : word.IsLiteral) : Pattern.isPatternFrom false word.marks = false := by
  induction word with
  | nil => rfl
  | cons part word ih =>
    obtain ⟨hpart, hword⟩ := List.forall_mem_cons.mp h
    cases hpart with
    | @char c hc =>
      have hbare := isBare_iff.mp hc
      have hcons : Word.marks (.char c :: word) = ⟨c, false⟩ :: Word.marks word := rfl
      have hbracket : (c == '[') = false := beq_eq_false_iff_ne.mpr hbare.bracket
      rw [hcons, Pattern.isPatternFrom]
      simp [hbare.star, hbare.question, hbracket, ih hword]
    | quoted c => exact ih hword
    | quotes => exact ih hword

end Reading

namespace Execution

theorem piecesFrom_literal (h : word.IsLiteral) (hn : word.length ≤ n) :
    Gives (piecesFrom perform n word) s (word.map Part.piece) s := by
  induction word generalizing n with
  | nil => cases n <;> exact .pure []
  | cons part word ih =>
    obtain ⟨hpart, hword⟩ := List.forall_mem_cons.mp h
    obtain ⟨n, rfl⟩ := Nat.exists_eq_add_of_le' (Nat.one_le_of_lt hn)
    have hlater : Gives (piecesFrom perform n word) s (word.map Part.piece) s :=
      ih hword (Nat.le_of_succ_le_succ hn)
    cases hpart with
    | char hc => exact .bind (.pure _) (.bind hlater (.pure _))
    | quoted c => exact .bind (.pure _) (.bind hlater (.pure _))
    | quotes => exact .bind (.pure _) (.bind hlater (.pure _))

theorem tildeAt_literal (marks : List Char) (h : word.IsLiteral) : Gives (tildeAt marks word) s word s := by
  unfold tildeAt
  split
  · next rest =>
    cases h _ List.mem_cons_self with
    | char hc => exact absurd rfl (isBare_iff.mp hc).tilde
  · exact .pure word

theorem tildesFrom_literal (h : word.IsLiteral) : Gives (tildesFrom n word) s word s := by
  induction n generalizing word with
  | zero => exact .pure word
  | succ n ih =>
    rw [tildesFrom]
    refine .bind (tildeAt_literal _ h) ?_
    dsimp only
    rw [drop_length_takeWhile]
    split
    · exact .pure word
    · next colon rest hfound =>
      have hrest : Word.IsLiteral rest := by
        intro part hmem
        refine h part ((List.dropWhile_sublist _).mem (hfound ▸ List.mem_cons_of_mem colon hmem))
      refine .bind (ih hrest) ?_
      rw [← hfound, List.takeWhile_append_dropWhile]
      exact .pure word

theorem tildes_literal (h : word.IsLiteral) : Gives (tildes word) s word s := by
  have hspan := spanPlain_spec isNameChar word
  unfold tildes
  cases hfound : Word.spanPlain isNameChar word with
  | mk name rest =>
  rw [hfound] at hspan
  clear hfound
  subst hspan
  dsimp only
  have hrest : Word.IsLiteral rest := fun part hmem => h part (List.mem_append_right _ hmem)
  split
  · next value _ =>
    have hvalue : Word.IsLiteral value := (List.forall_mem_cons.mp hrest).2
    exact .bind (tildesFrom_literal hvalue) (.pure _)
  · next value _ =>
    have hvalue : Word.IsLiteral value := (List.forall_mem_cons.mp (List.forall_mem_cons.mp hrest).2).2
    exact .bind (tildesFrom_literal hvalue) (.pure _)
  · exact tildeAt_literal _ h

theorem expand_brace (h : word.IsLiteral) : Brace.expand word = [word] := by
  have hbrace : word.any Brace.isBrace = false := by
    rw [List.any_eq_false]
    intro part hmem
    cases h part hmem with
    | char hc => simpa [Brace.isBrace] using (isBare_iff.mp hc).brace
    | quoted c => exact Bool.false_ne_true
    | quotes => exact Bool.false_ne_true
  rw [Brace.expand, hbrace, if_neg Bool.false_ne_true]

theorem pathsOf_literal (hhabits : "extglob" ∉ s.process.habits) (h : word.IsLiteral) :
    Gives (pathsOf word.marks) s [word.value] s := by
  have hgroups : s.process.habits.contains "extglob" = false := by
    rw [List.contains_eq_mem, decide_eq_false hhabits]
  refine .bind (.bind (.hasHabit "extglob") (.bind (.hasHabit "dotglob") (.bind (.hasHabit "nocaseglob") (.pure _)))) ?_
  dsimp only
  rw [hgroups, Pattern.isPattern, isPatternFrom_literal h]
  exact .pure _

theorem wordFields_literal (hhabits : "extglob" ∉ s.process.habits) (h : word.IsLiteral) (hne : word ≠ []) :
    Gives (wordFields perform word) s [word.value] s := by
  have hpieces : Gives (pieces perform word) s (word.map Part.piece) s :=
    piecesFrom_literal h (Nat.le_add_left _ _)
  have hseparators : ∃ text, Gives separators s text s :=
    ⟨_, .bind (.bind (.bind .process (.pure _)) (.pure _)) (.pure _)⟩
  obtain ⟨text, hseparators⟩ := hseparators
  refine .bind (tildes_literal h) (.bind hseparators (.bind hpieces ?_))
  dsimp only
  rw [fields_literal h hne]
  exact .bind (.bind (pathsOf_literal hhabits h) (.pure _)) (.pure _)

theorem expand_literal (hhabits : "extglob" ∉ s.process.habits) (h : word.IsLiteral) (hne : word ≠ []) :
    Gives (expand perform word) s [word.value] s := by
  refine .bind (.hasOption "braceexpand") ?_
  rw [expand_brace h, ite_self]
  exact .bind (.bind (wordFields_literal hhabits h hne) (.bind (.pure _) (.pure _))) (.pure _)

end Execution

section Written

variable {text : Chars}

theorem isLiteral_ofText (text : Chars) : (Word.ofText text).IsLiteral :=
  List.forall_mem_cons.mpr ⟨.quotes, List.forall_mem_map.mpr fun c _ => .quoted c⟩

theorem Written.isLiteral (h : Written text word) : word.IsLiteral := by
  induction h with
  | nil => exact List.forall_mem_nil _
  | bare hc h ih => exact List.forall_mem_cons.mpr ⟨.char hc, ih⟩
  | escaped hc h ih => exact List.forall_mem_cons.mpr ⟨.quoted _, ih⟩
  | single hinside h ih => exact List.forall_mem_append.mpr ⟨isLiteral_ofText _, ih⟩
  | double hinside h ih => exact List.forall_mem_append.mpr ⟨isLiteral_ofText _, ih⟩

theorem value_append (front word : Word) : Word.value (front ++ word) = front.value ++ word.value := by
  rw [Word.value, Word.marks, List.flatMap_append, List.map_append]
  rfl

theorem value_ofText (text : Chars) : (Word.ofText text).value = text := by
  induction text with
  | nil => rfl
  | cons c text ih => exact congrArg (c :: ·) ih

theorem value_name (name : Chars) : Word.value (name.map .char) = name := by
  induction name with
  | nil => rfl
  | cons c name ih => exact congrArg (c :: ·) ih

end Written

end WorkflowScript.Shell
