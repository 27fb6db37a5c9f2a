import WorkflowScript.Shell.Source

namespace WorkflowScript.Shell.Reader

variable {α β : Type} {breaks : Nat} {text mid rest : Chars} {c : Char}

def Reads (breaks : Nat) (reader : Reader α) (text : Chars) (value : α) (rest : Chars) : Prop :=
  reader ⟨text, none, breaks⟩ = .ok (value, ⟨rest, none, breaks⟩)

namespace Reads

theorem pure (value : α) : Reads breaks (Pure.pure value) text value text := rfl

theorem bind {reader : Reader α} {next : α → Reader β} {first : α} {value : β}
    (h : Reads breaks reader text first mid) (hnext : Reads breaks (next first) mid value rest) :
    Reads breaks (reader >>= next) text value rest := by
  change (reader ⟨text, none, breaks⟩ >>= fun found => next found.1 found.2) = _
  rw [h]
  exact hnext

theorem get : Reads breaks MonadState.get text (⟨text, none, breaks⟩ : Source) text := rfl

theorem whole : Reads breaks Reader.rest text text text := rfl

theorem setRest (rest : Chars) : Reads breaks (Reader.setRest rest) text () rest := rfl

theorem skip (n : Nat) : Reads breaks (Reader.skip n) text () (text.drop n) := rfl

theorem startsWith (mark : String) :
    Reads breaks (Reader.startsWith mark) text (mark.toList.isPrefixOf text) text := rfl

theorem take?_of_not {mark : String} (h : mark.toList.isPrefixOf text = false) :
    Reads breaks (take? mark) text false text := by
  refine bind get ?_
  rw [h]
  exact pure false

theorem takeBreak : Reads breaks Reader.takeBreak ('\n' :: text) () text := rfl

end Reads

section Blanks

variable {gap : Chars}

theorem afterBlanks_append (h : ∀ c ∈ gap, isBlank c = true) (text : Chars) :
    afterBlanks (gap ++ text) = afterBlanks text := by
  induction gap with
  | nil => rfl
  | cons c gap ih =>
    obtain ⟨hc, hgap⟩ := List.forall_mem_cons.mp h
    rw [List.cons_append, afterBlanks, if_pos hc, ih hgap]
    intro _ hbackslash
    rw [hbackslash] at hc
    exact absurd hc (by decide)

structure Begins (text : Chars) : Prop where
  kept : afterBlanks text = text
  notComment : text.head? ≠ some '#'

theorem Begins.of_ne (hblank : isBlank c = false) (hbackslash : c ≠ '\\') (hhash : c ≠ '#') :
    Begins (c :: text) := by
  refine ⟨?_, fun h => hhash (Option.some.inj h)⟩
  rw [afterBlanks, if_neg (by rw [hblank]; exact Bool.false_ne_true)]
  exact fun _ h => absurd h hbackslash

theorem Begins.of_backslash (hc : c ≠ '\n') : Begins ('\\' :: c :: text) := by
  refine ⟨?_, fun h => absurd (Option.some.inj h) (by decide)⟩
  rw [afterBlanks, if_neg (by decide)]
  exact fun _ _ h => hc (List.cons.inj h).1

theorem Begins.nil : Begins [] := ⟨rfl, by decide⟩

theorem Begins.lineFeed : Begins ('\n' :: text) := .of_ne (by decide) (by decide) (by decide)

theorem Reads.skipBlanks (hgap : ∀ c ∈ gap, isBlank c = true) (h : Begins text) :
    Reads breaks Reader.skipBlanks (gap ++ text) () text := by
  refine .bind .whole ?_
  rw [afterBlanks_append hgap, h.kept]
  dsimp only
  rw [if_neg h.notComment]
  exact .setRest _

theorem Reads.skipNothing (h : Begins text) : Reads breaks Reader.skipBlanks text () text :=
  .skipBlanks (List.forall_mem_nil _) h

end Blanks

end WorkflowScript.Shell.Reader
