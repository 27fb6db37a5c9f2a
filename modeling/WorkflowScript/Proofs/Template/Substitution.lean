import WorkflowScript.Proofs.Template.Bound
import WorkflowScript.Proofs.Template.Sites

namespace WorkflowScript.Placeholder

open Text Outcome

inductive Becomes (bindings : Bindings) : Piece → List Char → Prop
  | plain (c : Char) : Becomes bindings (.plain c) [c]
  | occurrence {o : Occurrence} {value : String} (h : Denotes bindings o value) :
      Becomes bindings (.occurrence o) value.toList

structure Cuts (text : List Char) (parts : List Piece) : Prop where
  source : parts.flatMap Piece.source = text
  sound : ∀ front o back, parts = front ++ .occurrence o :: back → ∃ site : Site text,
    site.before = front.flatMap Piece.source ∧ site.placeholder = o ∧
      site.after = back.flatMap Piece.source
  complete : ∀ site : Site text, ∃ front back, parts = front ++ .occurrence site.placeholder :: back ∧
    front.flatMap Piece.source = site.before ∧ back.flatMap Piece.source = site.after

theorem cuts_pieces (text : List Char) : Cuts text (pieces recognise text) where
  source := source_pieces recognise_faithful text
  sound _ _ _ h := exists_site_of_split h
  complete := exists_split_of_site

namespace Cuts

variable {text rest : List Char} {part : Piece} {parts : List Piece}

theorem source_ne_nil (h : Cuts text parts) (hpart : part ∈ parts) : part.source ≠ [] := by
  cases part with
  | plain c => exact List.cons_ne_nil _ _
  | occurrence o =>
    obtain ⟨front, back, hsplit⟩ := List.append_of_mem hpart
    obtain ⟨site, -, rfl, -⟩ := h.sound front o back hsplit
    exact whole_ne_nil site.written

theorem tail (h : Cuts (part.source ++ rest) (part :: parts)) : Cuts rest parts where
  source := List.append_cancel_left h.source
  sound front o back hsplit := by
    obtain ⟨site, hbefore, rfl, hafter⟩ := h.sound (part :: front) o back (congrArg _ hsplit)
    have htext := site.text_eq
    rw [hbefore, List.flatMap_cons, List.append_assoc] at htext
    exact ⟨⟨_, site.placeholder, site.after, List.append_cancel_left htext, site.written⟩, rfl, rfl, hafter⟩
  complete site := by
    have htext : part.source ++ rest =
        (part.source ++ site.before) ++ (site.placeholder.whole ++ site.after) := by
      rw [List.append_assoc, ← site.text_eq]
    obtain ⟨front, back, hsplit, hfront, hback⟩ :=
      h.complete ⟨_, site.placeholder, site.after, htext, site.written⟩
    cases front with
    | nil =>
      have hnil : part.source ++ site.before = [] := hfront.symm
      exact absurd (List.append_eq_nil_iff.mp hnil).1 (h.source_ne_nil List.mem_cons_self)
    | cons first front =>
      obtain ⟨rfl, hparts⟩ := List.cons.inj hsplit
      exact ⟨front, back, hparts, List.append_cancel_left hfront, hback⟩

theorem eq_pieces (h : Cuts text parts) : parts = pieces recognise text := by
  induction parts generalizing text with
  | nil =>
    have htext : [] = text := h.source
    rw [← htext, pieces_nil]
  | cons part parts ih =>
    obtain ⟨rest, rfl⟩ : ∃ rest, text = part.source ++ rest := ⟨_, h.source.symm⟩
    rw [ih h.tail]
    cases part with
    | plain c =>
      -- a placeholder that began here would be the first piece
      have hnone : recognise (c :: rest) = none := by
        rw [Option.eq_none_iff_forall_ne_some]
        intro o ho
        obtain ⟨hwritten, behind, hbehind⟩ := recognise_eq_some_iff.mp ho
        obtain ⟨front, back, hsplit, hfront, -⟩ := h.complete ⟨[], o, behind, hbehind, hwritten⟩
        cases front with
        | nil => cases hsplit
        | cons first front =>
          obtain ⟨rfl, -⟩ := List.cons.inj hsplit
          cases hfront
      exact (pieces_cons_of_none hnone).symm
    | occurrence o =>
      obtain ⟨site, -, ho, -⟩ := h.sound [] o parts rfl
      have hwritten : Written o := ho ▸ site.written
      exact (pieces_append (whole_ne_nil hwritten) (recognise_append hwritten rest)).symm

end Cuts

section Pieces

variable {bindings : Bindings} {text : List Char}

theorem valueOf_eq_ok_iff_of_written {o : Occurrence} (h : Written o) {shown : List Char} :
    valueOf bindings o = .ok shown ↔ ∃ value, Denotes bindings o value ∧ shown = value.toList := by
  obtain ⟨scope, name, hgroups⟩ := groups_of_written h
  exact valueOf_eq_ok_iff hgroups

theorem written_of_mem {o : Occurrence} (h : .occurrence o ∈ pieces recognise text) : Written o := by
  obtain ⟨front, back, hsplit⟩ := List.append_of_mem h
  obtain ⟨site, -, rfl, -⟩ := exists_site_of_split hsplit
  exact site.written

theorem pieceValue_eq_ok_iff {piece : Piece} (h : piece ∈ pieces recognise text) {value : List Char} :
    pieceValue bindings piece = .ok value ↔ Becomes bindings piece value := by
  cases piece with
  | plain c =>
    rw [pieceValue, Except.ok.injEq]
    constructor
    · rintro rfl
      exact .plain c
    · rintro ⟨⟩
      rfl
  | occurrence o =>
    rw [pieceValue, valueOf_eq_ok_iff_of_written (written_of_mem h)]
    constructor
    · rintro ⟨value, hvalue, rfl⟩
      exact .occurrence hvalue
    · intro hbecomes
      cases hbecomes with
      | occurrence hvalue => exact ⟨_, hvalue, rfl⟩

theorem pieceValue_eq_error_iff {piece : Piece} (h : piece ∈ pieces recognise text)
    {e : CompileError} :
    pieceValue bindings piece = .error e ↔ ∃ o, piece = .occurrence o ∧ Lacks bindings o e := by
  cases piece with
  | plain c => simp [pieceValue]
  | occurrence o =>
    obtain ⟨scope, name, hgroups⟩ := groups_of_written (written_of_mem h)
    simp [pieceValue, valueOf_eq_error_iff hgroups]

theorem resolve_eq_ok_iff_becomes {out : List Char} :
    resolve bindings text = .ok out ↔
      ∃ values, List.Forall₂ (Becomes bindings) (pieces recognise text) values ∧
        out = values.flatten := by
  rw [resolve, resolvePieces_eq, map_eq_ok_iff]
  simp only [mapM_eq_ok_iff_of_mem fun piece hpiece _ => pieceValue_eq_ok_iff hpiece,
    eq_comm (a := out)]

theorem exists_resolve_iff_denotes :
    (∃ out, resolve bindings text = .ok out) ↔
      ∀ site : Site text, ∃ value, Denotes bindings site.placeholder value := by
  rw [exists_resolve_iff_pieces]
  constructor
  · intro h site
    obtain ⟨front, back, hsplit, -, -⟩ := exists_split_of_site site
    obtain ⟨value, hvalue⟩ := h (.occurrence site.placeholder) (by simp [hsplit])
    obtain ⟨shown, hshown, -⟩ := (valueOf_eq_ok_iff_of_written site.written).mp hvalue
    exact ⟨shown, hshown⟩
  · intro h piece hmem
    cases piece with
    | plain c => exact ⟨[c], rfl⟩
    | occurrence o =>
      obtain ⟨front, back, hsplit⟩ := List.append_of_mem hmem
      obtain ⟨site, -, rfl, -⟩ := exists_site_of_split hsplit
      obtain ⟨value, hvalue⟩ := h site
      exact ⟨_, valueOf_of_denotes hvalue⟩

theorem resolve_eq_error_iff {e : CompileError} :
    resolve bindings text = .error e ↔ ∃ site : Site text, Lacks bindings site.placeholder e ∧
      ∀ other : Site text, other.start < site.start →
        ∃ value, Denotes bindings other.placeholder value := by
  rw [resolve, resolvePieces_eq, map_eq_error_iff, mapM_eq_error_iff]
  constructor
  · rintro ⟨front, piece, back, hsplit, hfront, herror⟩
    have hmem : piece ∈ pieces recognise text := by simp [hsplit]
    obtain ⟨o, rfl, hlacks⟩ := (pieceValue_eq_error_iff hmem).mp herror
    obtain ⟨site, hbefore, rfl, -⟩ := exists_site_of_split hsplit
    refine ⟨site, hlacks, ?_⟩
    intro other hother
    rw [Site.start, Site.start, hbefore] at hother
    have hleft := (mem_front_iff hsplit).mpr ⟨other, rfl, hother⟩
    obtain ⟨value, hvalue⟩ := hfront _ hleft
    obtain ⟨shown, hshown, -⟩ := (valueOf_eq_ok_iff_of_written other.written).mp hvalue
    exact ⟨shown, hshown⟩
  · rintro ⟨site, hlacks, hleft⟩
    obtain ⟨front, back, hsplit, hbefore, -⟩ := exists_split_of_site site
    refine ⟨front, _, back, hsplit, ?_, valueOf_of_lacks hlacks⟩
    intro piece hpiece
    cases piece with
    | plain c => exact ⟨[c], rfl⟩
    | occurrence o =>
      obtain ⟨other, rfl, hother⟩ := (mem_front_iff hsplit).mp hpiece
      rw [hbefore] at hother
      obtain ⟨value, hvalue⟩ := hleft other hother
      exact ⟨_, valueOf_of_denotes hvalue⟩

theorem flatten_of_plain {parts : List Piece} {values : List (List Char)}
    (h : List.Forall₂ (Becomes bindings) parts values) (hplain : ∀ o, .occurrence o ∉ parts) :
    values.flatten = parts.flatMap Piece.source := by
  induction h with
  | nil => rfl
  | cons hpiece _ ih =>
    cases hpiece with
    | plain c =>
      rw [List.flatten_cons, List.flatMap_cons, ih fun o ho => hplain o (List.mem_cons_of_mem _ ho)]
      rfl
    | @occurrence o value hvalue => exact absurd List.mem_cons_self (hplain o)

theorem resolve_of_isEmpty (h : IsEmpty (Site text)) : resolve bindings text = .ok text := by
  obtain ⟨out, hout⟩ : ∃ out, resolve bindings text = .ok out :=
    exists_resolve_iff_denotes.mpr fun site => h.elim site
  obtain ⟨values, hvalues, rfl⟩ := resolve_eq_ok_iff_becomes.mp hout
  have hplain : ∀ o, .occurrence o ∉ pieces recognise text := by
    intro o hmem
    obtain ⟨front, back, hsplit⟩ := List.append_of_mem hmem
    obtain ⟨site, -⟩ := exists_site_of_split hsplit
    exact h.elim site
  rw [hout, flatten_of_plain hvalues hplain, source_pieces recognise_faithful]

end Pieces

theorem resolve_simultaneous (bindings : Bindings) (text : List Char) :
    (∀ site other : Site text,
      site = other ∨ site.stop ≤ other.start ∨ other.stop ≤ site.start) ∧
    ((∃ out, resolve bindings text = .ok out) ↔
      ∀ site : Site text, ∃ value, Denotes bindings site.placeholder value) ∧
    (∃ parts, Cuts text parts ∧ ∀ out, resolve bindings text = .ok out ↔
      ∃ values, List.Forall₂ (Becomes bindings) parts values ∧ out = values.flatten) ∧
    (∀ e, resolve bindings text = .error e ↔
      ∃ site : Site text, Lacks bindings site.placeholder e ∧ ∀ other : Site text,
        other.start < site.start → ∃ value, Denotes bindings other.placeholder value) ∧
    (IsEmpty (Site text) → resolve bindings text = .ok text) :=
  ⟨Site.eq_or_apart, exists_resolve_iff_denotes,
    ⟨pieces recognise text, cuts_pieces text, fun _ => resolve_eq_ok_iff_becomes⟩,
    fun _ => resolve_eq_error_iff, resolve_of_isEmpty⟩

def foreign : List Char := "echo $HOME $\x7b\x7b github.sha \x7d\x7d".toList

theorem isEmpty_site_foreign : IsEmpty (Site foreign) := by
  refine ⟨fun site => ?_⟩
  obtain ⟨front, back, hsplit, -, -⟩ := exists_split_of_site site
  have hnone : occurrences recognise foreign = [] := by decide +kernel
  have hmem : site.placeholder ∈ occurrences recognise foreign :=
    List.mem_filterMap.mpr ⟨.occurrence site.placeholder, by simp [hsplit], rfl⟩
  rw [hnone] at hmem
  cases hmem

def declaring : Bindings :=
  ⟨.ofList [("Rev", .ofDefault "$\x7b\x7bmatrix.os\x7d\x7d"), ("token", .required)],
    .ofPairs [("os", "linux")]⟩

def building : List Char := "build $\x7b\x7b inputs.rev \x7d\x7d on $\x7b\x7bMatrix.OS\x7d\x7d".toList

def built : List Char := "build $\x7b\x7bmatrix.os\x7d\x7d on linux".toList

def withheld : List Char :=
  "$\x7b\x7b inputs.rev \x7d\x7d $\x7b\x7bINPUTS.Token\x7d\x7d $\x7b\x7b matrix.none \x7d\x7d".toList

theorem resolve_withheld :
    (∃ parts, Cuts building parts ∧
      ∃ values, List.Forall₂ (Becomes declaring) parts values ∧ built = values.flatten) ∧
    (∀ site : Site building, ∃ value, Denotes declaring site.placeholder value) ∧
    resolve declaring building = .ok built ∧
    resolve declaring foreign = .ok foreign ∧
    ∃ site : Site withheld, Lacks declaring site.placeholder (.missingInputDefault "Token") ∧
      ∀ other : Site withheld, other.start < site.start →
        ∃ value, Denotes declaring other.placeholder value := by
  have hbuilt : resolve declaring building = .ok built := by decide +kernel
  obtain ⟨-, hbound, ⟨parts, hcuts, hparts⟩, -, -⟩ := resolve_simultaneous declaring building
  obtain ⟨-, -, -, -, hforeign⟩ := resolve_simultaneous declaring foreign
  obtain ⟨-, -, -, herror, -⟩ := resolve_simultaneous declaring withheld
  refine ⟨⟨parts, hcuts, (hparts built).mp hbuilt⟩, hbound.mp ⟨built, hbuilt⟩, hbuilt,
    hforeign isEmpty_site_foreign, ?_⟩
  exact (herror _).mp (by decide +kernel)

end WorkflowScript.Placeholder
