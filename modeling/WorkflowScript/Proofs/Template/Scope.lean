import WorkflowScript.Proofs.Template.Substitution

namespace WorkflowScript.Placeholder

open Text Outcome

def longS : Char := 'ſ'

section Spelling

variable {word scope : List Char}

theorem not_spelling_matrix (h : Spelling inputsWord scope) : ¬ Spelling matrixWord scope := by
  intro hmatrix
  have hread : afterWord? inputsWord (scope ++ []) = some (scope, []) :=
    afterWord?_eq_some_iff.mpr ⟨h, rfl⟩
  rw [afterWord?_inputs_of_matrix hmatrix []] at hread
  cases hread

theorem toLower_eq_iff_of_spells {letter c : Char} (hletter : letter.toUpper.toLower = letter.toLower)
    (hlong : letter.toLower ≠ longS.toLower) (h : spells letter c = true) :
    c.toLower = letter.toLower ↔ c ≠ longS := by
  simp only [spells, Bool.or_eq_true, beq_iff_eq, Bool.and_eq_true] at h
  rcases h with (rfl | rfl) | ⟨-, rfl⟩
  · exact iff_of_true rfl fun heq => hlong (congrArg Char.toLower heq)
  · exact iff_of_true hletter fun heq => hlong (hletter.symm.trans (congrArg Char.toLower heq))
  · exact iff_of_false (Ne.symm hlong) (not_not_intro rfl)

theorem same_iff_of_spelling (h : Spelling word scope)
    (hupper : ∀ letter ∈ word, letter.toUpper.toLower = letter.toLower)
    (hlong : ∀ letter ∈ word, letter.toLower ≠ longS.toLower) :
    sameIgnoringAsciiCase scope word = true ↔ longS ∉ scope := by
  rw [sameIgnoringAsciiCase, beq_iff_eq]
  induction h with
  | nil => simp
  | @cons letter c word scope hc _ ih =>
    obtain ⟨hletter, hword⟩ := List.forall_mem_cons.mp hupper
    obtain ⟨hlongLetter, hlongWord⟩ := List.forall_mem_cons.mp hlong
    rw [List.map_cons, List.map_cons, List.cons.injEq, toLower_eq_iff_of_spells hletter hlongLetter hc,
      ih hword hlongWord, List.mem_cons, not_or, ne_comm]

theorem same_inputs_iff (h : Spelling inputsWord scope) :
    sameIgnoringAsciiCase scope inputsWord = true ↔ longS ∉ scope :=
  same_iff_of_spelling h (by simp [inputsWord]) (by simp [inputsWord, longS])

theorem same_inputs_of_matrix (h : Spelling matrixWord scope) :
    sameIgnoringAsciiCase scope inputsWord = false := by
  cases h with
  | @cons _ c _ rest hc _ =>
    have hfirst : c.toLower = 'm' := (toLower_eq_iff_of_spells (by decide) (by decide) hc).mpr
      fun heq => by
        rw [heq] at hc
        exact absurd hc (by decide)
    simp [sameIgnoringAsciiCase, inputsWord, hfirst]

end Spelling

section Lookup

variable {bindings : Bindings} {o : Occurrence} {scope name : List Char}

theorem valueOf_of_same (h : o.groups = [scope, name])
    (hscope : sameIgnoringAsciiCase scope inputsWord = true) :
    valueOf bindings o = (bindings.input (.ofList name)).map String.toList := by
  rw [valueOf, h]
  simp only [lookup, if_pos hscope]

theorem valueOf_of_not_same (h : o.groups = [scope, name])
    (hscope : sameIgnoringAsciiCase scope inputsWord = false) :
    valueOf bindings o = (bindings.matrixValue (.ofList name)).map String.toList := by
  rw [valueOf, h]
  simp only [lookup, hscope, Bool.false_eq_true, if_false]

theorem resolve_congr {bindings' : Bindings} {text : List Char}
    (h : ∀ site : Site text, valueOf bindings site.placeholder = valueOf bindings' site.placeholder) :
    resolve bindings text = resolve bindings' text := by
  have hpieces : ∀ piece ∈ pieces recognise text,
      pieceValue bindings piece = pieceValue bindings' piece := by
    intro piece hpiece
    cases piece with
    | plain c => rfl
    | occurrence o =>
      obtain ⟨front, back, hsplit⟩ := List.append_of_mem hpiece
      obtain ⟨site, -, rfl, -⟩ := exists_site_of_split hsplit
      exact h site
  rw [resolve, resolve, resolvePieces_eq, resolvePieces_eq,
    mapM_congr_forall₂ (List.forall₂_same.mpr hpieces)]

end Lookup

namespace Site

variable {text : List Char}

def scope (site : Site text) : List Char := site.placeholder.groups.headD []

theorem groups_eq (site : Site text) : ∃ name, site.placeholder.groups = [site.scope, name] ∧
    (Spelling inputsWord site.scope ∨ Spelling matrixWord site.scope) := by
  obtain ⟨before, o, after, htext, hwritten⟩ := site
  cases hwritten with
  | intro ha hb hc hd hscope hne hname => exact ⟨_, rfl, hscope⟩

theorem spelling_of_long {site : Site text} (h : longS ∈ site.scope) : Spelling inputsWord site.scope := by
  obtain ⟨name, -, hscope⟩ := site.groups_eq
  exact hscope.resolve_right fun hmatrix => notMem_of_spelling hmatrix (by decide) h

end Site

theorem looked_up_by_spelling (bindings : Bindings) (text : List Char) :
    (∀ site : Site text, ∃ name, site.placeholder.groups = [site.scope, name] ∧
      ((Spelling inputsWord site.scope ∧ ¬ Spelling matrixWord site.scope ∧
          valueOf bindings site.placeholder =
            if longS ∈ site.scope then (bindings.matrixValue (.ofList name)).map String.toList
            else (bindings.input (.ofList name)).map String.toList) ∨
        (Spelling matrixWord site.scope ∧ ¬ Spelling inputsWord site.scope ∧
          valueOf bindings site.placeholder =
            (bindings.matrixValue (.ofList name)).map String.toList))) ∧
    ((∀ site : Site text, Spelling inputsWord site.scope ∧ longS ∉ site.scope) →
      ∀ combination, resolve ⟨bindings.inputs, combination⟩ text = resolve bindings text) ∧
    ((∀ site : Site text, Spelling matrixWord site.scope ∨ longS ∈ site.scope) →
      ∀ inputs, resolve ⟨inputs, bindings.combination⟩ text = resolve bindings text) := by
  refine ⟨?_, ?_, ?_⟩
  · intro site
    obtain ⟨name, hgroups, hscope⟩ := site.groups_eq
    refine ⟨name, hgroups, hscope.imp ?_ ?_⟩
    · intro hinputs
      refine ⟨hinputs, not_spelling_matrix hinputs, ?_⟩
      by_cases h : longS ∈ site.scope
      · have hscope := Bool.eq_false_iff.mpr fun hsame => (same_inputs_iff hinputs).mp hsame h
        rw [if_pos h, valueOf_of_not_same hgroups hscope]
      · rw [if_neg h, valueOf_of_same hgroups ((same_inputs_iff hinputs).mpr h)]
    · intro hmatrix
      exact ⟨hmatrix, fun hinputs => not_spelling_matrix hinputs hmatrix,
        valueOf_of_not_same hgroups (same_inputs_of_matrix hmatrix)⟩
  · intro h combination
    refine resolve_congr fun site => ?_
    obtain ⟨name, hgroups, -⟩ := site.groups_eq
    obtain ⟨hinputs, hshort⟩ := h site
    have hscope := (same_inputs_iff hinputs).mpr hshort
    rw [valueOf_of_same hgroups hscope, valueOf_of_same hgroups hscope]
    rfl
  · intro h inputs
    refine resolve_congr fun site => ?_
    obtain ⟨name, hgroups, -⟩ := site.groups_eq
    have hscope : sameIgnoringAsciiCase site.scope inputsWord = false := by
      rcases h site with hmatrix | hmem
      · exact same_inputs_of_matrix hmatrix
      · exact Bool.eq_false_iff.mpr fun hsame =>
          (same_inputs_iff (Site.spelling_of_long hmem)).mp hsame hmem
    rw [valueOf_of_not_same hgroups hscope, valueOf_of_not_same hgroups hscope]
    rfl

def usual (scope name : List Char) : Occurrence :=
  ⟨opening ++ ' ' :: (scope ++ '.' :: (name ++ ' ' :: closing)), [scope, name]⟩

theorem written_usual {scope name : List Char}
    (hscope : Spelling inputsWord scope ∨ Spelling matrixWord scope) (hne : name ≠ [])
    (hname : ∀ x ∈ name, isNameChar x = true) : Written (usual scope name) :=
  .intro (a := [' ']) (b := []) (c := []) (d := [' ']) rfl rfl rfl rfl hscope hne hname

def homonymous : Bindings := ⟨.ofList [("x", .ofDefault "default")], .ofPairs [("x", "axis")]⟩

def longSpelled : Occurrence := usual "inputſ".toList "x".toList

theorem long_s_misses_inputs :
    (∃ site : Site longSpelled.whole, site.placeholder = longSpelled ∧ Spelling inputsWord site.scope) ∧
    valueOf homonymous longSpelled ≠ (homonymous.input "x").map String.toList ∧
    resolve homonymous longSpelled.whole = .ok "axis".toList ∧
    resolve ⟨homonymous.inputs, .none⟩ longSpelled.whole = .error (.undefinedMatrixValue "x") := by
  have hspelling : Spelling inputsWord "inputſ".toList := by
    unfold Spelling
    decide
  have hwritten : Written longSpelled :=
    written_usual (.inl hspelling) (by decide) (List.all_eq_true.mp (by decide))
  refine ⟨⟨⟨[], longSpelled, [], by simp, hwritten⟩, rfl, hspelling⟩, ?_, ?_, ?_⟩
  · decide +kernel
  · decide +kernel
  · decide +kernel

end WorkflowScript.Placeholder
