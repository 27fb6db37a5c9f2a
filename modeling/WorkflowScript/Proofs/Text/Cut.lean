import Mathlib.Data.List.Infix
import WorkflowScript.Proofs.Text.Pieces

namespace WorkflowScript.Text

variable {literal : List Char}

def literally (literal : List Char) : Recogniser :=
  fun text => (afterLiteral? literal text).map fun _ => ⟨literal, []⟩

theorem literally_eq_none_iff {text : List Char} : literally literal text = none ↔ ¬ literal <+: text := by
  rw [literally, Option.map_eq_none_iff, Option.eq_none_iff_forall_ne_some]
  constructor
  · rintro h ⟨rest, rfl⟩
    exact h rest (afterLiteral?_eq_some_iff.mpr rfl)
  · intro h rest hrest
    exact h ⟨rest, (afterLiteral?_eq_some_iff.mp hrest).symm⟩

theorem literally_append (rest : List Char) :
    literally literal (literal ++ rest) = some ⟨literal, []⟩ := by
  rw [literally, afterLiteral?_eq_some_iff.mpr rfl]
  rfl

def putPiece (piece : Piece) (parts : List (List Char)) : List (List Char) :=
  match piece, parts with
  | .plain c, part :: parts => (c :: part) :: parts
  | .plain c, [] => [[c]]
  | .occurrence _, parts => [] :: parts

theorem cutAt_eq (literal text : List Char) :
    cutAt literal text = (pieces (literally literal) text).foldr putPiece [[]] := rfl

theorem cutAt_nil (literal : List Char) : cutAt literal [] = [[]] := by
  rw [cutAt_eq, pieces_nil]
  rfl

theorem cutAt_cons {c : Char} {text part : List Char} {parts : List (List Char)}
    (h : ¬ literal <+: c :: text) (htext : cutAt literal text = part :: parts) :
    cutAt literal (c :: text) = (c :: part) :: parts := by
  rw [cutAt_eq] at htext ⊢
  rw [pieces_cons_of_none (literally_eq_none_iff.mpr h), List.foldr_cons, htext]
  rfl

theorem cutAt_append (hne : literal ≠ []) (text : List Char) :
    cutAt literal (literal ++ text) = [] :: cutAt literal text := by
  have hpieces : pieces (literally literal) (literal ++ text) =
      .occurrence ⟨literal, []⟩ :: pieces (literally literal) text :=
    pieces_append (o := ⟨literal, []⟩) hne (literally_append text)
  rw [cutAt_eq, cutAt_eq, hpieces]
  rfl

theorem literally_faithful (hne : literal ≠ []) : (literally literal).Faithful := by
  intro text o h
  obtain ⟨rest, hrest, rfl⟩ := Option.map_eq_some_iff.mp h
  exact ⟨hne, rest, afterLiteral?_eq_some_iff.mp hrest⟩

theorem cutAt_spec (hne : literal ≠ []) (text : List Char) :
    ∃ part parts, cutAt literal text = part :: parts ∧ part <+: text ∧
      ∀ other ∈ part :: parts, ¬ literal <:+: other := by
  induction text using pieces_induction (literally_faithful hne) with
  | nil =>
    refine ⟨[], [], cutAt_nil literal, List.nil_prefix, ?_⟩
    simpa using hne
  | occurrence o rest h ih =>
    obtain ⟨after, hafter, rfl⟩ := Option.map_eq_some_iff.mp h
    obtain ⟨part, parts, hcut, -, hall⟩ := ih
    refine ⟨[], part :: parts, by rw [cutAt_append hne, hcut], List.nil_prefix, ?_⟩
    exact List.forall_mem_cons.mpr ⟨by simpa using hne, hall⟩
  | plain c text h ih =>
    obtain ⟨part, parts, hcut, hprefix, hall⟩ := ih
    have hnone := literally_eq_none_iff.mp h
    have hlonger : c :: part <+: c :: text := (List.cons_prefix_cons).mpr ⟨rfl, hprefix⟩
    obtain ⟨hpart, hparts⟩ := List.forall_mem_cons.mp hall
    refine ⟨c :: part, parts, cutAt_cons hnone hcut, hlonger, List.forall_mem_cons.mpr ⟨?_, hparts⟩⟩
    rw [List.infix_cons_iff, not_or]
    exact ⟨fun hfound => hnone (hfound.trans hlonger), hpart⟩

theorem not_infix_of_mem_cutAt (hne : literal ≠ []) {text part : List Char}
    (h : part ∈ cutAt literal text) : ¬ literal <:+: part := by
  obtain ⟨first, parts, hcut, -, hall⟩ := cutAt_spec hne text
  exact hall part (hcut ▸ h)

theorem prefix_of_prefix_append {first : Char} {tail text rest : List Char} (hfirst : first ∉ tail)
    (hne : text ≠ []) (h : first :: tail <+: text ++ (first :: tail ++ rest)) : first :: tail <+: text := by
  rcases List.prefix_or_prefix_of_prefix h (List.prefix_append text _) with h' | ⟨middle, hmiddle⟩
  · exact h'
  · cases middle with
    | nil => exact ⟨[], by simpa using hmiddle.symm⟩
    | cons c middle =>
      -- the literal would start inside itself
      exfalso
      obtain ⟨d, front, rfl⟩ := List.exists_cons_of_ne_nil hne
      obtain ⟨back, hback⟩ := h
      have htail : front ++ c :: middle = tail := (List.cons.inj hmiddle).2
      have hinner : c :: middle ++ back = first :: tail ++ rest := by
        rw [← hmiddle, List.append_assoc (d :: front)] at hback
        exact (List.append_cancel_left hback).trans (by rw [hmiddle])
      have hc : c = first := (List.cons.inj hinner).1
      apply hfirst
      rw [← htail, hc]
      exact List.mem_append_right front List.mem_cons_self

theorem cutAt_append_literal {first : Char} {tail line : List Char} (hfirst : first ∉ tail)
    (hline : ¬ first :: tail <:+: line) (rest : List Char) :
    cutAt (first :: tail) (line ++ (first :: tail ++ rest)) = line :: cutAt (first :: tail) rest := by
  induction line with
  | nil => exact cutAt_append (List.cons_ne_nil _ _) rest
  | cons c line ih =>
    rw [List.infix_cons_iff, not_or] at hline
    refine cutAt_cons ?_ (ih hline.2)
    intro hfound
    exact hline.1 (prefix_of_prefix_append hfirst (List.cons_ne_nil _ _) hfound)

theorem cutAt_of_not_infix {line : List Char} (hline : ¬ literal <:+: line) : cutAt literal line = [line] := by
  induction line with
  | nil => exact cutAt_nil literal
  | cons c line ih =>
    rw [List.infix_cons_iff, not_or] at hline
    exact cutAt_cons hline.1 (ih hline.2)

theorem cutAt_intercalate {first : Char} {tail : List Char} (hfirst : first ∉ tail)
    {lines : List (List Char)} (hne : lines ≠ []) (h : ∀ line ∈ lines, ¬ first :: tail <:+: line) :
    cutAt (first :: tail) ((first :: tail).intercalate lines) = lines := by
  induction lines with
  | nil => exact absurd rfl hne
  | cons line lines ih =>
    obtain ⟨hline, hlines⟩ := List.forall_mem_cons.mp h
    cases lines with
    | nil => simpa [List.intercalate] using cutAt_of_not_infix hline
    | cons next lines =>
      have hjoin : (first :: tail).intercalate (line :: next :: lines) =
          line ++ (first :: tail ++ (first :: tail).intercalate (next :: lines)) := by
        simp [List.intercalate]
      rw [hjoin, cutAt_append_literal hfirst hline, ih (List.cons_ne_nil _ _) hlines]

theorem cutAt_intercalate_iff {first : Char} {tail : List Char} (hfirst : first ∉ tail)
    {lines : List (List Char)} (hne : lines ≠ []) :
    cutAt (first :: tail) ((first :: tail).intercalate lines) = lines ↔
      ∀ line ∈ lines, ¬ first :: tail <:+: line := by
  refine ⟨?_, cutAt_intercalate hfirst hne⟩
  intro heq line hline
  rw [← heq] at hline
  exact not_infix_of_mem_cutAt (List.cons_ne_nil _ _) hline

section Mark

variable {text front back : List Char} {mark last : Char}

theorem exists_last_mark (h : mark ∈ text) : ∃ front back, text = front ++ mark :: back ∧ mark ∉ back := by
  obtain ⟨back, front, hreverse, hback⟩ := List.eq_append_cons_of_mem (List.mem_reverse.mpr h)
  refine ⟨front.reverse, back.reverse, ?_, fun hmem => hback (List.mem_reverse.mp hmem)⟩
  rw [← List.reverse_reverse text, hreverse]
  simp

theorem splitOn_last (h : mark ∉ back) : (front ++ mark :: back).splitOn mark = front.splitOn mark ++ [back] := by
  rw [List.splitOn_append_cons_self, List.splitOn_eq_singleton h]

theorem getLast?_splitOn_ne (h : text.getLast? = some last) (hmark : last ≠ mark) :
    (text.splitOn mark).getLast? ≠ some [] := by
  by_cases hmem : mark ∈ text
  · obtain ⟨front, back, rfl, hback⟩ := exists_last_mark hmem
    rw [splitOn_last hback, List.getLast?_concat]
    intro hempty
    obtain rfl := Option.some.inj hempty
    rw [List.getLast?_concat] at h
    exact hmark (Option.some.inj h).symm
  · rw [List.splitOn_eq_singleton hmem, List.getLast?_singleton]
    intro hempty
    obtain rfl := Option.some.inj hempty
    cases h

end Mark

end WorkflowScript.Text
