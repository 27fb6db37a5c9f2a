import WorkflowScript.Text.Scan

namespace WorkflowScript.Text

theorem pieces_cons_of_none {recognise : Recogniser} {c : Char} {text : List Char}
    (h : recognise (c :: text) = none) :
    pieces recognise (c :: text) = .plain c :: pieces recognise text := by
  rw [pieces]
  split
  · next o ho =>
    rw [h] at ho
    cases ho
  · rfl

theorem pieces_cons_of_some {recognise : Recogniser} {c : Char} {text : List Char} {o : Occurrence}
    (h : recognise (c :: text) = some o) :
    pieces recognise (c :: text) =
      .occurrence o :: pieces recognise (text.drop (o.whole.length - 1)) := by
  rw [pieces]
  split
  · next o' ho =>
    rw [h] at ho
    cases ho
    rfl
  · next ho =>
    rw [h] at ho
    cases ho

theorem occurrences_cons_of_none {recognise : Recogniser} {c : Char} {text : List Char}
    (h : recognise (c :: text) = none) :
    occurrences recognise (c :: text) = occurrences recognise text := by
  rw [occurrences, pieces_cons_of_none h]
  rfl

theorem occurrences_cons_of_some {recognise : Recogniser} {c : Char} {text : List Char}
    {o : Occurrence} (h : recognise (c :: text) = some o) :
    occurrences recognise (c :: text) =
      o :: occurrences recognise (text.drop (o.whole.length - 1)) := by
  rw [occurrences, pieces_cons_of_some h]
  rfl

theorem recognise_of_mem_occurrences {recognise : Recogniser} {text : List Char} {o : Occurrence}
    (h : o ∈ occurrences recognise text) : ∃ rest, recognise rest = some o := by
  induction text using pieces.induct recognise with
  | case1 => simp [occurrences, pieces_nil] at h
  | case2 c text found hfound ih =>
    rw [occurrences_cons_of_some hfound] at h
    rcases List.mem_cons.mp h with rfl | h
    · exact ⟨c :: text, hfound⟩
    · exact ih h
  | case3 c text hnone ih =>
    rw [occurrences_cons_of_none hnone] at h
    exact ih h

theorem recognise_of_occurrences_eq_nil {recognise : Recogniser} {text : List Char}
    (h : occurrences recognise text = []) {c : Char} {rest : List Char} (hrest : c :: rest <:+ text) :
    recognise (c :: rest) = none := by
  induction text with
  | nil => simp at hrest
  | cons d text ih =>
    cases hfound : recognise (d :: text) with
    | some o =>
      rw [occurrences_cons_of_some hfound] at h
      cases h
    | none =>
      rw [occurrences_cons_of_none hfound] at h
      rcases List.suffix_cons_iff.mp hrest with heq | htail
      · rw [heq, hfound]
      · exact ih h htail

variable {recognise : Recogniser} {value : Occurrence → List Char} {c : Char} {text : List Char}

theorem replaceAll_cons_of_none (h : recognise (c :: text) = none) :
    replaceAll recognise value (c :: text) = c :: replaceAll recognise value text := by
  rw [replaceAll, pieces_cons_of_none h]
  rfl

theorem replaceAll_cons_of_some {o : Occurrence} (h : recognise (c :: text) = some o) :
    replaceAll recognise value (c :: text) =
      value o ++ replaceAll recognise value (text.drop (o.whole.length - 1)) := by
  rw [replaceAll, pieces_cons_of_some h]
  rfl

theorem replaceAll_eq_self (h : ∀ rest, rest <:+ text → recognise rest = none) :
    replaceAll recognise value text = text := by
  induction text with
  | nil => exact replaceAll_nil _ _
  | cons c text ih =>
    rw [replaceAll_cons_of_none (h _ List.suffix_rfl),
      ih fun rest hrest => h rest (hrest.trans (List.suffix_cons c text))]

section Members

theorem mem_of_plain_mem_pieces {recognise : Recogniser} {text : List Char} {c : Char}
    (h : .plain c ∈ pieces recognise text) : c ∈ text := by
  induction text using pieces.induct recognise with
  | case1 => simp [pieces_nil] at h
  | case2 d text o ho ih =>
    rw [pieces_cons_of_some ho] at h
    rcases List.mem_cons.mp h with h | h
    · cases h
    · exact List.mem_cons_of_mem _ ((List.drop_suffix _ _).mem (ih h))
  | case3 d text hnone ih =>
    rw [pieces_cons_of_none hnone] at h
    rcases List.mem_cons.mp h with h | h
    · cases h
      exact List.mem_cons_self
    · exact List.mem_cons_of_mem _ (ih h)

theorem mem_replaceAll {recognise : Recogniser} {value : Occurrence → List Char} {text : List Char}
    {c : Char} (h : c ∈ replaceAll recognise value text) :
    c ∈ text ∨ ∃ o, .occurrence o ∈ pieces recognise text ∧ c ∈ value o := by
  obtain ⟨piece, hpiece, hc⟩ := List.mem_flatMap.mp h
  cases piece with
  | plain d =>
    rw [Piece.substitute, List.mem_singleton] at hc
    subst hc
    exact .inl (mem_of_plain_mem_pieces hpiece)
  | occurrence o => exact .inr ⟨o, hpiece, hc⟩

end Members

section Source

def Piece.source : Piece → List Char
  | .plain c => [c]
  | .occurrence o => o.whole

def Recogniser.Faithful (recognise : Recogniser) : Prop :=
  ∀ text o, recognise text = some o → o.whole ≠ [] ∧ ∃ rest, text = o.whole ++ rest

theorem pieces_append {o : Occurrence} {rest : List Char} (hne : o.whole ≠ [])
    (h : recognise (o.whole ++ rest) = some o) :
    pieces recognise (o.whole ++ rest) = .occurrence o :: pieces recognise rest := by
  obtain ⟨c, tail, htail⟩ := List.exists_cons_of_ne_nil hne
  have hrest : (tail ++ rest).drop (o.whole.length - 1) = rest := by simp [htail]
  rw [htail, List.cons_append] at h ⊢
  rw [pieces_cons_of_some h, hrest]

variable (hfaithful : recognise.Faithful)

include hfaithful

theorem pieces_induction {P : List Char → Prop} (nil : P [])
    (occurrence : ∀ o rest, recognise (o.whole ++ rest) = some o → P rest → P (o.whole ++ rest))
    (plain : ∀ c text, recognise (c :: text) = none → P text → P (c :: text)) (text : List Char) :
    P text := by
  induction text using pieces.induct recognise with
  | case1 => exact nil
  | case2 c text o h ih =>
    obtain ⟨hne, rest, htext⟩ := hfaithful _ _ h
    obtain ⟨d, tail, htail⟩ := List.exists_cons_of_ne_nil hne
    have hdrop : text.drop (o.whole.length - 1) = rest := by
      rw [htail, List.cons_append, List.cons.injEq] at htext
      simp [htail, htext.2]
    rw [hdrop] at ih
    rw [htext] at h ⊢
    exact occurrence o rest h ih
  | case3 c text h ih => exact plain c text h ih

theorem source_pieces (text : List Char) : (pieces recognise text).flatMap Piece.source = text := by
  induction text using pieces_induction hfaithful with
  | nil => rw [pieces_nil]; rfl
  | occurrence o rest h ih => rw [pieces_append (hfaithful _ _ h).1 h, List.flatMap_cons, ih]; rfl
  | plain c text h ih => rw [pieces_cons_of_none h, List.flatMap_cons, ih]; rfl

end Source

end WorkflowScript.Text
