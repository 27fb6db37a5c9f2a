import WorkflowScript.Proofs.Outcome
import WorkflowScript.Proofs.Template.Value
import WorkflowScript.Proofs.Text.Pieces

namespace WorkflowScript.Placeholder

open Text Outcome

inductive Bound (bindings : Bindings) : Occurrence → Prop
  | input {whole scope name : List Char} {input : Input}
      (hscope : sameIgnoringAsciiCase scope inputsWord = true)
      (hinput : bindings.inputs.get? (.ofList name) = some input)
      (hdefault : input.hasDefault = true) : Bound bindings ⟨whole, [scope, name]⟩
  | axis {whole scope name : List Char} {value : String}
      (hscope : sameIgnoringAsciiCase scope inputsWord = false)
      (hvalue : bindings.combination.get? (.ofList name) = some value) :
      Bound bindings ⟨whole, [scope, name]⟩

def AllBound (bindings : Bindings) (text : List Char) : Prop :=
  ∀ o ∈ occurrences recognise text, Bound bindings o

def substitute (bindings : Bindings) (text : List Char) : List Char :=
  replaceAll recognise (fun o => (valueOf bindings o).toOption.getD []) text

theorem groups_of_recognise {text : List Char} {o : Occurrence} (h : recognise text = some o) :
    ∃ scope name, o.groups = [scope, name] := by
  obtain ⟨parts, -, rfl⟩ := Option.map_eq_some_iff.mp h
  exact ⟨parts.scope, parts.name, rfl⟩

theorem bound_iff {bindings : Bindings} {o : Occurrence} :
    Bound bindings o ↔ ∃ value, Denotes bindings o value := by
  constructor
  · intro h
    cases h with
    | input hscope hinput hdefault =>
      obtain ⟨entry, hmem, hname, rfl⟩ := NameTable.get?_eq_some_iff.mp hinput
      exact ⟨_, .input hscope hmem hname (Input.defaults_iff.mpr ⟨hdefault, rfl⟩)⟩
    | axis hscope hvalue =>
      obtain ⟨entry, hmem, hname, rfl⟩ := NameTable.get?_eq_some_iff.mp hvalue
      exact ⟨_, .axis hscope hmem hname⟩
  · rintro ⟨value, h⟩
    cases h with
    | input hscope hdeclared hname hdefault =>
      obtain ⟨hgiven, -⟩ := Input.defaults_iff.mp hdefault
      exact .input hscope (NameTable.get?_eq_some_of_mem hdeclared hname) hgiven
    | axis hscope haxis hname => exact .axis hscope (NameTable.get?_eq_some_of_mem haxis hname)

theorem exists_valueOf_iff {bindings : Bindings} {o : Occurrence} {scope name : List Char}
    (h : o.groups = [scope, name]) : (∃ v, valueOf bindings o = .ok v) ↔ Bound bindings o := by
  rw [bound_iff]
  constructor
  · rintro ⟨v, hv⟩
    obtain ⟨value, hvalue, -⟩ := (valueOf_eq_ok_iff h).mp hv
    exact ⟨value, hvalue⟩
  · rintro ⟨value, hvalue⟩
    exact ⟨_, valueOf_of_denotes hvalue⟩

def pieceValue (bindings : Bindings) : Piece → Except CompileError (List Char)
  | .plain c => .ok [c]
  | .occurrence o => valueOf bindings o

theorem resolvePieces_eq (bindings : Bindings) (pieces : List Piece) :
    resolvePieces bindings pieces = (pieces.mapM (pieceValue bindings)).map List.flatten := by
  induction pieces with
  | nil => rfl
  | cons piece pieces ih =>
    rw [List.mapM_cons]
    cases piece with
    | plain c =>
      rw [resolvePieces, ih]
      cases pieces.mapM (pieceValue bindings) <;> rfl
    | occurrence o =>
      rw [resolvePieces, ih]
      change _ = (valueOf bindings o >>= _).map List.flatten
      cases valueOf bindings o with
      | error e => rfl
      | ok value => cases pieces.mapM (pieceValue bindings) <;> rfl

theorem exists_resolve_iff_pieces {bindings : Bindings} {text : List Char} :
    (∃ resolved, resolve bindings text = .ok resolved) ↔
      ∀ piece ∈ pieces recognise text, ∃ value, pieceValue bindings piece = .ok value := by
  rw [← exists_mapM_eq_ok_iff, resolve, resolvePieces_eq]
  simp [map_eq_ok_iff]

theorem exists_resolve_iff {bindings : Bindings} {text : List Char} :
    (∃ resolved, resolve bindings text = .ok resolved) ↔ AllBound bindings text := by
  rw [exists_resolve_iff_pieces]
  constructor
  · intro h o ho
    obtain ⟨rest, hrest⟩ := recognise_of_mem_occurrences ho
    obtain ⟨scope, name, hgroups⟩ := groups_of_recognise hrest
    obtain ⟨piece, hpiece, hoccurrence⟩ := List.mem_filterMap.mp ho
    rw [← exists_valueOf_iff hgroups]
    cases piece with
    | plain c => cases hoccurrence
    | occurrence o' =>
      cases hoccurrence
      exact h _ hpiece
  · intro h piece hpiece
    cases piece with
    | plain c => exact ⟨[c], rfl⟩
    | occurrence o =>
      have ho : o ∈ occurrences recognise text := List.mem_filterMap.mpr ⟨_, hpiece, rfl⟩
      obtain ⟨rest, hrest⟩ := recognise_of_mem_occurrences ho
      obtain ⟨scope, name, hgroups⟩ := groups_of_recognise hrest
      exact (exists_valueOf_iff hgroups).mpr (h o ho)

theorem eq_substitute_of_resolve {bindings : Bindings} {text resolved : List Char}
    (h : resolve bindings text = .ok resolved) : resolved = substitute bindings text := by
  rw [resolve, resolvePieces_eq, map_eq_ok_iff] at h
  obtain ⟨values, hvalues, rfl⟩ := h
  rw [substitute, replaceAll, List.flatMap_def]
  congr 1
  rw [mapM_eq_ok_iff] at hvalues
  rw [← List.forall₂_eq_eq_eq, List.forall₂_map_right_iff]
  refine hvalues.flip.imp fun value piece hvalue => ?_
  cases piece with
  | plain c =>
    cases hvalue
    rfl
  | occurrence o =>
    change valueOf bindings o = .ok value at hvalue
    simp [Piece.substitute, hvalue, Except.toOption]

theorem resolve_eq_ok_iff {bindings : Bindings} {text resolved : List Char} :
    resolve bindings text = .ok resolved ↔
      AllBound bindings text ∧ resolved = substitute bindings text := by
  constructor
  · intro h
    exact ⟨exists_resolve_iff.mp ⟨resolved, h⟩, eq_substitute_of_resolve h⟩
  · rintro ⟨hbound, rfl⟩
    obtain ⟨resolved, h⟩ := exists_resolve_iff.mpr hbound
    rw [h, eq_substitute_of_resolve h]

end WorkflowScript.Placeholder
