import WorkflowScript.Proofs.Line.Cases
import WorkflowScript.Script.Fragment

namespace WorkflowScript.Fragment

open Outcome Line

section Source

theorem of_mem_splitOn {text part : List Char} {c : Char} (h : part ∈ text.splitOn c) :
    c ∉ part ∧ part ⊆ text := by
  rw [List.splitOn] at h
  induction text generalizing part with
  | nil =>
    rw [List.splitOnP_nil, List.mem_singleton] at h
    rw [h]
    exact ⟨List.not_mem_nil, List.Subset.refl _⟩
  | cons d text ih =>
    rw [List.splitOnP_cons_eq_if_modifyHead] at h
    split at h
    · rcases List.mem_cons.mp h with rfl | h
      · exact ⟨List.not_mem_nil, List.nil_subset _⟩
      · exact (ih h).imp_right (List.subset_cons_of_subset d)
    · next hd =>
      obtain ⟨first, parts, hparts⟩ := List.exists_cons_of_ne_nil (List.splitOnP_ne_nil (· == c) text)
      rw [hparts] at h ih
      rcases List.mem_cons.mp h with rfl | h
      · obtain ⟨hfree, hsubset⟩ := ih List.mem_cons_self
        have hne : c ≠ d := fun heq => hd (by simp [heq])
        exact ⟨List.not_mem_cons_of_ne_of_not_mem hne hfree, List.cons_subset_cons d hsubset⟩
      · exact (ih (List.mem_cons_of_mem _ h)).imp_right (List.subset_cons_of_subset d)

theorem of_mem_physicalLines {text raw : List Char} (h : raw ∈ physicalLines text) :
    '\n' ∉ raw ∧ raw ⊆ text := by
  obtain ⟨part, hpart, rfl⟩ := List.mem_map.mp h
  obtain ⟨hfree, hsubset⟩ := of_mem_splitOn hpart
  split
  · have hpart := List.dropLast_subset part
    exact ⟨fun hmem => hfree (hpart hmem), List.Subset.trans hpart hsubset⟩
  · exact ⟨hfree, hsubset⟩

end Source

inductive Runs (target : Target) (bindings : Bindings) :
    Continuing → List (List Char) → List Emitted → Continuing → Prop
  | nil (state : Continuing) : Runs target bindings state [] [] state
  | cons {state next after : Continuing} {raw : List Char} {raws : List (List Char)} {emitted : Emitted}
      {rest : List Emitted} (hline : Line.transform target bindings state raw = .ok (emitted, next))
      (hrest : Runs target bindings next raws rest after) :
      Runs target bindings state (raw :: raws) (emitted :: rest) after

def noBindings : Bindings := ⟨.empty, .none⟩

variable {target : Target} {bindings : Bindings} {state after : Continuing} {raws : List (List Char)}
  {emitted : List Emitted}

theorem transformLines_eq_ok_iff {lines : List String} :
    transformLines target bindings state raws = .ok lines ↔ ∃ emitted after,
      Runs target bindings state raws emitted after ∧ lines = emitted.flatMap Emitted.toLines := by
  induction raws generalizing state lines with
  | nil =>
    constructor
    · intro h
      cases h
      exact ⟨[], state, .nil state, rfl⟩
    · rintro ⟨emitted, after, hruns, rfl⟩
      cases hruns
      rfl
  | cons raw raws ih =>
    rw [transformLines]
    constructor
    · intro h
      obtain ⟨⟨first, next⟩, hline, h⟩ := bind_eq_ok_iff.mp h
      obtain ⟨rest, hrest, heq⟩ := bind_eq_ok_iff.mp h
      cases heq
      obtain ⟨emitted, after, hruns, rfl⟩ := ih.mp hrest
      exact ⟨first :: emitted, after, .cons hline hruns, rfl⟩
    · rintro ⟨emitted, after, hruns, rfl⟩
      cases hruns with
      | @cons state next after raw raws first rest hline hruns =>
        have hrest := ih.mpr ⟨rest, after, hruns, rfl⟩
        exact bind_eq_ok_iff.mpr ⟨_, hline, bind_eq_ok_iff.mpr ⟨_, hrest, rfl⟩⟩

theorem Runs.exists_of_mem {text : List Char} (h : Runs target bindings state raws emitted after)
    (htext : .line text ∈ emitted) :
    ∃ raw ∈ raws, ∃ before next, Line.transform target bindings before raw = .ok (.line text, next) := by
  induction h with
  | nil => cases htext
  | @cons state next after raw raws first rest hline hrest ih =>
    rcases List.mem_cons.mp htext with rfl | htext
    · exact ⟨raw, List.mem_cons_self, state, next, hline⟩
    · obtain ⟨source, hsource, hok⟩ := ih htext
      exact ⟨source, List.mem_cons_of_mem _ hsource, hok⟩

theorem exists_line_of_mem_lines {text line : String} {lines : List String}
    (h : transform target bindings text = .ok lines) (hline : line ∈ lines) (hne : line ≠ "") :
    ∃ raw ∈ physicalLines text.toList, ∃ before next,
      Line.transform target bindings before raw = .ok (.line line.toList, next) := by
  obtain ⟨emitted, after, hruns, rfl⟩ := transformLines_eq_ok_iff.mp h
  obtain ⟨first, hfirst, hline⟩ := List.mem_flatMap.mp hline
  cases first with
  | elided => cases hline
  | blank => exact absurd (List.mem_singleton.mp hline) hne
  | line out =>
    cases List.mem_singleton.mp hline
    rw [String.toList_ofList]
    exact hruns.exists_of_mem hfirst

def shown (lines : List String) : List (List Char) :=
  (lines.map String.toList).filter fun line => line ≠ []

theorem shown_append (front back : List String) : shown (front ++ back) = shown front ++ shown back := by
  rw [shown, List.map_append, List.filter_append]
  rfl

theorem shown_toLines {next : Continuing} {raw : List Char} {emitted : Emitted}
    (h : Becomes target bindings state raw emitted next) : shown emitted.toLines = emitted.text?.toList := by
  cases emitted with
  | elided => rfl
  | blank => rfl
  | line text =>
    have hne : text ≠ [] := text?_ne_nil h rfl
    simp [shown, Emitted.toLines, Emitted.text?, hne]

theorem Runs.shown_eq (h : Runs target bindings state raws emitted after) :
    shown (emitted.flatMap Emitted.toLines) = emitted.filterMap Emitted.text? := by
  induction h with
  | nil => rfl
  | @cons state next after raw raws emitted rest hline hrest ih =>
    rw [List.flatMap_cons, shown_append, ih, shown_toLines (transform_eq_ok_iff.mp hline),
      List.filterMap_cons]
    cases emitted.text? <;> rfl

def spoken (target : Target) (bindings : Bindings) (raws : List (List Char)) : List (List Char) :=
  raws.filter fun raw => !isSilent target bindings raw

theorem Runs.spoken (h : Runs target bindings state raws emitted after) :
    Runs target bindings state (spoken target bindings raws)
      ((emitted.filterMap Emitted.text?).map .line) after := by
  induction h with
  | nil state => exact .nil state
  | @cons state next after raw raws emitted rest hline hrest ih =>
    have hbecomes := transform_eq_ok_iff.mp hline
    have hsilent := isSilent_of_becomes hbecomes
    rw [Fragment.spoken, List.filter_cons, hsilent, List.filterMap_cons]
    cases emitted with
    | line text => exact .cons hline ih
    | elided =>
      rw [state_of_isSilent hbecomes hsilent] at ih
      exact ih
    | blank =>
      rw [state_of_isSilent hbecomes hsilent] at ih
      exact ih

theorem Runs.of_spoken (h : Runs target bindings state (Fragment.spoken target bindings raws) emitted after) :
    ∃ all, Runs target bindings state raws all after ∧
      all.filterMap Emitted.text? = emitted.filterMap Emitted.text? := by
  induction raws generalizing state emitted with
  | nil =>
    cases h
    exact ⟨[], .nil _, rfl⟩
  | cons raw raws ih =>
    rw [Fragment.spoken, List.filter_cons] at h
    cases hsilent : isSilent target bindings raw with
    | true =>
      rw [hsilent] at h
      obtain ⟨first, hfirst, hnone⟩ := exists_becomes_of_isSilent state hsilent
      obtain ⟨all, hall, heq⟩ := ih h
      refine ⟨first :: all, .cons (transform_eq_ok_iff.mpr hfirst) hall, ?_⟩
      rw [List.filterMap_cons_none hnone, heq]
    | false =>
      rw [hsilent] at h
      cases h with
      | @cons state next after raw raws first rest hline hrest =>
        obtain ⟨all, hall, heq⟩ := ih hrest
        refine ⟨first :: all, .cons hline hall, ?_⟩
        rw [List.filterMap_cons, List.filterMap_cons, heq]

end WorkflowScript.Fragment
