import WorkflowScript.Proofs.Template.Substitution

namespace WorkflowScript.Placeholder

open Text

section Pieces

variable {front rest text : List Char} {c : Char}

theorem recognise_eq_none_of_ne (h : c ≠ '$') (rest : List Char) : recognise (c :: rest) = none := by
  rw [Option.eq_none_iff_forall_ne_some]
  intro o ho
  obtain ⟨hwritten, behind, hbehind⟩ := recognise_eq_some_iff.mp ho
  obtain ⟨tail, htail, -⟩ := exists_dollar_cons hwritten
  rw [htail] at hbehind
  exact h (List.cons.inj hbehind).1

theorem recognise_eq_none_of_closed (h : c ≠ '\x7b') (rest : List Char) : recognise ('$' :: c :: rest) = none := by
  rw [Option.eq_none_iff_forall_ne_some]
  intro o ho
  obtain ⟨hwritten, behind, hbehind⟩ := recognise_eq_some_iff.mp ho
  cases hwritten
  exact h (List.cons.inj (List.cons.inj hbehind).2).1

theorem recognise_append_dollar (h : recognise (c :: rest) = none) (text : List Char) :
    recognise (c :: (rest ++ '$' :: text)) = none := by
  rw [Option.eq_none_iff_forall_ne_some]
  intro o ho
  obtain ⟨hwritten, behind, hbehind⟩ := recognise_eq_some_iff.mp ho
  obtain ⟨tail, htail, hdollar⟩ := exists_dollar_cons hwritten
  rw [← List.cons_append] at hbehind
  rcases List.append_eq_append_iff.mp hbehind with ⟨middle, hwhole, hmiddle⟩ | ⟨middle, hline, -⟩
  · cases middle with
    | nil =>
      rw [List.append_nil] at hwhole
      have hread := recognise_append hwritten []
      rw [List.append_nil, hwhole, h] at hread
      cases hread
    | cons d middle =>
      obtain ⟨rfl, -⟩ := List.cons.inj hmiddle
      rw [htail, List.cons_append] at hwhole
      apply hdollar
      rw [(List.cons.inj hwhole).2]
      exact List.mem_append_right _ List.mem_cons_self
  · rw [hline, recognise_append hwritten] at h
    cases h

theorem pieces_append_of_none (h : ∀ c rest, recognise (c :: rest) = none → recognise (c :: (rest ++ text)) = none)
    (front : List Char) :
    pieces recognise (front ++ text) = pieces recognise front ++ pieces recognise text := by
  induction front using pieces_induction recognise_faithful with
  | nil => rw [pieces_nil, List.nil_append, List.nil_append]
  | occurrence o rest ho ih =>
    have hwritten := (recognise_eq_some_iff.mp ho).1
    rw [List.append_assoc, pieces_append (whole_ne_nil hwritten) (recognise_append hwritten _), ih,
      pieces_append (whole_ne_nil hwritten) ho, List.cons_append]
  | plain c rest hnone ih =>
    rw [List.cons_append, pieces_cons_of_none (h c rest hnone), ih, pieces_cons_of_none hnone, List.cons_append]

theorem pieces_append_dollar (front text : List Char) :
    pieces recognise (front ++ '$' :: text) = pieces recognise front ++ pieces recognise ('$' :: text) :=
  pieces_append_of_none (fun _ _ h => recognise_append_dollar h text) front

theorem pieces_append_of_notMem (h : '$' ∉ front) (text : List Char) :
    pieces recognise (front ++ text) = front.map .plain ++ pieces recognise text := by
  induction front with
  | nil => rfl
  | cons c front ih =>
    rw [List.mem_cons, not_or] at h
    rw [List.cons_append, pieces_cons_of_none (recognise_eq_none_of_ne (Ne.symm h.1) _), ih h.2, List.map_cons,
      List.cons_append]

inductive IsVariable : List Char → Prop
  | intro {c : Char} {name : List Char} (hc : c ≠ '\x7b') (hname : '$' ∉ c :: name) :
      IsVariable ('$' :: c :: name)

theorem IsVariable.pieces_eq (h : IsVariable text) (front rest : List Char) :
    pieces recognise (front ++ (text ++ rest)) =
      pieces recognise front ++ (text.map .plain ++ pieces recognise rest) := by
  cases h with
  | @intro c name hc hname =>
    rw [List.cons_append, pieces_append_dollar, List.cons_append,
      pieces_cons_of_none (recognise_eq_none_of_closed hc _), ← List.cons_append,
      pieces_append_of_notMem hname rest]
    rfl

end Pieces

section Resolve

variable {bindings : Bindings} {front text rest : List Char}

theorem substitute_plain (bindings : Bindings) (text : List Char) :
    (text.map Piece.plain).flatMap (Piece.substitute fun o => (valueOf bindings o).toOption.getD []) = text := by
  induction text with
  | nil => rfl
  | cons c text ih => rw [List.map_cons, List.flatMap_cons, ih]; rfl

theorem IsVariable.substitute_eq (h : IsVariable text) (bindings : Bindings) (front rest : List Char) :
    substitute bindings (front ++ (text ++ rest)) =
      substitute bindings front ++ (text ++ substitute bindings rest) := by
  simp only [substitute, replaceAll, h.pieces_eq, List.flatMap_append, substitute_plain]

theorem IsVariable.allBound_iff (h : IsVariable text) :
    AllBound bindings (front ++ (text ++ rest)) ↔ AllBound bindings front ∧ AllBound bindings rest := by
  have hplain : (text.map Piece.plain).filterMap Piece.occurrence? = [] := by
    rw [List.filterMap_map]
    exact List.filterMap_eq_nil_iff.mpr fun _ _ => rfl
  simp only [AllBound, occurrences, h.pieces_eq, List.filterMap_append, hplain, List.nil_append,
    List.forall_mem_append]

theorem IsVariable.resolve_eq_ok_iff (h : IsVariable text) {out : List Char} :
    resolve bindings (front ++ (text ++ rest)) = .ok out ↔ ∃ front' rest',
      resolve bindings front = .ok front' ∧ resolve bindings rest = .ok rest' ∧
        out = front' ++ (text ++ rest') := by
  simp only [Placeholder.resolve_eq_ok_iff, h.allBound_iff, h.substitute_eq]
  constructor
  · rintro ⟨⟨hfront, hrest⟩, rfl⟩
    exact ⟨_, _, ⟨hfront, rfl⟩, ⟨hrest, rfl⟩, rfl⟩
  · rintro ⟨_, _, ⟨hfront, rfl⟩, ⟨hrest, rfl⟩, rfl⟩
    exact ⟨⟨hfront, hrest⟩, rfl⟩

end Resolve

end WorkflowScript.Placeholder
