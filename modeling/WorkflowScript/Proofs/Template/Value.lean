import WorkflowScript.Proofs.NameTable
import WorkflowScript.Template.Placeholder

namespace WorkflowScript

inductive Input.Defaults : Input → String → Prop
  | text (value : String) : Defaults ⟨some value, true⟩ value
  | empty : Defaults ⟨none, true⟩ ""

theorem Input.defaults_iff {input : Input} {value : String} :
    input.Defaults value ↔ input.hasDefault = true ∧ value = input.text := by
  constructor
  · rintro (_ | _)
    · exact ⟨rfl, rfl⟩
    · exact ⟨rfl, rfl⟩
  · rintro ⟨hdefault, rfl⟩
    obtain ⟨_ | value, hasDefault⟩ := input
    · cases hdefault
      exact .empty
    · cases hdefault
      exact .text value

namespace Placeholder

open Text

inductive Denotes (bindings : Bindings) : Occurrence → String → Prop
  | input {whole scope name : List Char} {declared value : String} {input : Input}
      (hscope : sameIgnoringAsciiCase scope inputsWord = true)
      (hdeclared : (declared, input) ∈ bindings.inputs.toList)
      (hname : foldName declared = foldName (.ofList name)) (hdefault : input.Defaults value) :
      Denotes bindings ⟨whole, [scope, name]⟩ value
  | axis {whole scope name : List Char} {axis value : String}
      (hscope : sameIgnoringAsciiCase scope inputsWord = false)
      (haxis : (axis, value) ∈ bindings.combination.pairs)
      (hname : foldName axis = foldName (.ofList name)) :
      Denotes bindings ⟨whole, [scope, name]⟩ value

inductive Lacks (bindings : Bindings) : Occurrence → CompileError → Prop
  | undeclared {whole scope name : List Char}
      (hscope : sameIgnoringAsciiCase scope inputsWord = true)
      (hnone : ∀ entry ∈ bindings.inputs.toList, foldName entry.1 ≠ foldName (.ofList name)) :
      Lacks bindings ⟨whole, [scope, name]⟩ (.undefinedInput (.ofList name))
  | withoutDefault {whole scope name : List Char} {declared : String} {input : Input}
      (hscope : sameIgnoringAsciiCase scope inputsWord = true)
      (hdeclared : (declared, input) ∈ bindings.inputs.toList)
      (hname : foldName declared = foldName (.ofList name)) (hdefault : input.hasDefault = false) :
      Lacks bindings ⟨whole, [scope, name]⟩ (.missingInputDefault (.ofList name))
  | unbound {whole scope name : List Char}
      (hscope : sameIgnoringAsciiCase scope inputsWord = false)
      (hnone : ∀ entry ∈ bindings.combination.pairs, foldName entry.1 ≠ foldName (.ofList name)) :
      Lacks bindings ⟨whole, [scope, name]⟩ (.undefinedMatrixValue (.ofList name))

section Value

variable {bindings : Bindings} {o : Occurrence}

theorem valueOf_of_denotes {value : String} (h : Denotes bindings o value) :
    valueOf bindings o = .ok value.toList := by
  cases h with
  | input hscope hdeclared hname hdefault =>
    have hget := NameTable.get?_eq_some_of_mem hdeclared hname
    obtain ⟨hgiven, rfl⟩ := Input.defaults_iff.mp hdefault
    simp only [valueOf, lookup, if_pos hscope, Bindings.input, hget, if_pos hgiven]
    rfl
  | axis hscope haxis hname =>
    have hget : bindings.combination.get? _ = _ := NameTable.get?_eq_some_of_mem haxis hname
    simp only [valueOf, lookup, hscope, Bindings.matrixValue, hget]
    rfl

theorem valueOf_of_lacks {e : CompileError} (h : Lacks bindings o e) :
    valueOf bindings o = .error e := by
  cases h with
  | undeclared hscope hnone =>
    have hget := NameTable.get?_eq_none_iff.mpr hnone
    simp only [valueOf, lookup, if_pos hscope, Bindings.input, hget]
    rfl
  | withoutDefault hscope hdeclared hname hdefault =>
    have hget := NameTable.get?_eq_some_of_mem hdeclared hname
    simp only [valueOf, lookup, if_pos hscope, Bindings.input, hget, hdefault]
    rfl
  | unbound hscope hnone =>
    have hget : bindings.combination.get? _ = none := NameTable.get?_eq_none_iff.mpr hnone
    simp only [valueOf, lookup, hscope, Bindings.matrixValue, hget]
    rfl

theorem denotes_or_lacks {scope name : List Char} (h : o.groups = [scope, name]) :
    (∃ value, Denotes bindings o value) ∨ ∃ e, Lacks bindings o e := by
  obtain ⟨whole, groups⟩ := o
  cases h
  cases hscope : sameIgnoringAsciiCase scope inputsWord with
  | true =>
    by_cases hdeclared : ∃ entry ∈ bindings.inputs.toList, foldName entry.1 = foldName (.ofList name)
    · obtain ⟨⟨declared, input⟩, hmem, hname⟩ := hdeclared
      cases hdefault : input.hasDefault with
      | true => exact .inl ⟨_, .input hscope hmem hname (Input.defaults_iff.mpr ⟨hdefault, rfl⟩)⟩
      | false => exact .inr ⟨_, .withoutDefault hscope hmem hname hdefault⟩
    · push Not at hdeclared
      exact .inr ⟨_, .undeclared hscope hdeclared⟩
  | false =>
    by_cases haxis : ∃ entry ∈ bindings.combination.pairs, foldName entry.1 = foldName (.ofList name)
    · obtain ⟨⟨axis, value⟩, hmem, hname⟩ := haxis
      exact .inl ⟨_, .axis hscope hmem hname⟩
    · push Not at haxis
      exact .inr ⟨_, .unbound hscope haxis⟩

theorem valueOf_eq_ok_iff {scope name : List Char} (h : o.groups = [scope, name]) {text : List Char} :
    valueOf bindings o = .ok text ↔ ∃ value, Denotes bindings o value ∧ text = value.toList := by
  constructor
  · intro hok
    rcases denotes_or_lacks h with ⟨value, hvalue⟩ | ⟨e, he⟩
    · rw [valueOf_of_denotes hvalue] at hok
      cases hok
      exact ⟨value, hvalue, rfl⟩
    · rw [valueOf_of_lacks he] at hok
      cases hok
  · rintro ⟨value, hvalue, rfl⟩
    exact valueOf_of_denotes hvalue

theorem valueOf_eq_error_iff {scope name : List Char} (h : o.groups = [scope, name]) {e : CompileError} :
    valueOf bindings o = .error e ↔ Lacks bindings o e := by
  refine ⟨fun herror => ?_, valueOf_of_lacks⟩
  rcases denotes_or_lacks h with ⟨value, hvalue⟩ | ⟨e', he⟩
  · rw [valueOf_of_denotes hvalue] at herror
    cases herror
  · rw [valueOf_of_lacks he] at herror
    cases herror
    exact he

end Value

end Placeholder

end WorkflowScript
