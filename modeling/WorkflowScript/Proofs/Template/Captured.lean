import WorkflowScript.Proofs.Matrix.Legs
import WorkflowScript.Proofs.Shell.Words
import WorkflowScript.Proofs.Template.Scope
import WorkflowScript.Proofs.Template.Split
import WorkflowScript.Proofs.Workflow.Inputs

namespace WorkflowScript.Placeholder

open Text Shell

def between (front middle back : List Char) : List Char := front ++ ' ' :: (middle ++ ' ' :: back)

section Pieces

variable {rest : List Char} {c d : Char} {o : Occurrence}

theorem exists_brace_concat (h : Written o) : ∃ front, o.whole = front ++ ['\x7d'] := by
  cases h with
  | @intro a scope b c name d ha hb hc hd hscope hne hname =>
    exact ⟨opening ++ (a ++ (scope ++ (b ++ (['.'] ++ (c ++ (name ++ (d ++ ['\x7d']))))))), by simp [closing]⟩

theorem recognise_concat (h : recognise (c :: rest) = none) (hd : d ≠ '\x7d') :
    recognise (c :: (rest ++ [d])) = none := by
  rw [Option.eq_none_iff_forall_ne_some]
  intro o ho
  obtain ⟨hwritten, behind, hbehind⟩ := recognise_eq_some_iff.mp ho
  rw [← List.cons_append] at hbehind
  rcases List.eq_nil_or_concat behind with rfl | ⟨behind, last, rfl⟩
  · obtain ⟨before, hbefore⟩ := exists_brace_concat hwritten
    rw [List.append_nil, hbefore] at hbehind
    exact hd (List.singleton_inj.mp (List.append_inj' hbehind rfl).2)
  · rw [List.concat_eq_append, ← List.append_assoc] at hbehind
    rw [(List.append_inj' hbehind rfl).1, recognise_append hwritten] at h
    cases h

theorem pieces_concat (hdollar : d ≠ '$') (hbrace : d ≠ '\x7d') (front : List Char) :
    pieces recognise (front ++ [d]) = pieces recognise front ++ [.plain d] := by
  have hlast : pieces recognise [d] = [.plain d] := by
    rw [pieces_cons_of_none (recognise_eq_none_of_ne hdollar []), pieces_nil]
  rw [pieces_append_of_none (fun _ _ h => recognise_concat h hbrace) front, hlast]

theorem pieces_between (h : Written o) (front back : List Char) :
    pieces recognise (between front o.whole back) =
      pieces recognise front ++ .plain ' ' :: .occurrence o :: .plain ' ' :: pieces recognise back := by
  obtain ⟨tail, htail, -⟩ := exists_dollar_cons h
  have hspace : pieces recognise (' ' :: back) = .plain ' ' :: pieces recognise back :=
    pieces_cons_of_none (recognise_eq_none_of_ne (by decide) back)
  have hback : pieces recognise ('$' :: (tail ++ ' ' :: back)) =
      .occurrence o :: .plain ' ' :: pieces recognise back := by
    rw [← hspace, ← List.cons_append, ← htail]
    exact pieces_append (whole_ne_nil h) (recognise_append h _)
  rw [between, htail, List.append_cons, List.cons_append, pieces_append_dollar, hback,
    pieces_concat (by decide) (by decide), List.append_assoc]
  rfl

end Pieces

section Resolve

variable {bindings : Bindings} {o : Occurrence} {value : String} {out : List Char}

theorem resolve_between_eq_ok_iff (hwritten : Written o) (hvalue : Denotes bindings o value)
    (front back : List Char) : resolve bindings (between front o.whole back) = .ok out ↔ ∃ front' back',
      resolve bindings front = .ok front' ∧ resolve bindings back = .ok back' ∧
        out = between front' value.toList back' := by
  have hbound : Bound bindings o := bound_iff.mpr ⟨value, hvalue⟩
  have hall : AllBound bindings (between front o.whole back) ↔ AllBound bindings front ∧ AllBound bindings back := by
    simp [AllBound, occurrences, pieces_between hwritten, Piece.occurrence?, or_imp, forall_and, hbound]
  have hout : substitute bindings (between front o.whole back) =
      between (substitute bindings front) value.toList (substitute bindings back) := by
    have hshown : (valueOf bindings o).toOption.getD [] = value.toList := by
      rw [valueOf_of_denotes hvalue]
      rfl
    simp only [substitute, replaceAll, pieces_between hwritten, List.flatMap_append, List.flatMap_cons,
      Piece.substitute, hshown]
    rfl
  simp only [resolve_eq_ok_iff, hall, hout]
  constructor
  · rintro ⟨⟨hfront, hback⟩, rfl⟩
    exact ⟨_, _, ⟨hfront, rfl⟩, ⟨hback, rfl⟩, rfl⟩
  · rintro ⟨_, _, ⟨hfront, rfl⟩, ⟨hback, rfl⟩, rfl⟩
    exact ⟨⟨hfront, hback⟩, rfl⟩

end Resolve

inductive Captures (bindings : Bindings) : Occurrence → String → Prop
  | input {whole scope name : List Char} {declared value : String}
      (hscope : sameIgnoringAsciiCase scope inputsWord = true)
      (hdeclared : (declared, Input.ofDefault value) ∈ bindings.inputs.toList)
      (hname : foldName declared = foldName (.ofList name)) : Captures bindings ⟨whole, [scope, name]⟩ value
  | axis {whole scope name : List Char} {job : Job} {matrix : Document.Node}
      {entries : List (String × Document.Node)} {combinations : List Combination} {i place : Nat}
      {axis : Matrix.Axis} {value : String} (hscope : sameIgnoringAsciiCase scope inputsWord = false)
      (hmatrix : job.matrix = some matrix) (hentries : matrix.entries = some entries)
      (hexpand : Matrix.expand job = .ok combinations) (hi : combinations[i]? = some bindings.combination)
      (haxis : (Matrix.declaredAxes entries)[place]? = some axis)
      (hname : foldName axis.name = foldName (.ofList name))
      (hvalue : axis.values[Matrix.digit (Matrix.declaredAxes entries) i place]? = some value) :
      Captures bindings ⟨whole, [scope, name]⟩ value

theorem Captures.denotes {bindings : Bindings} {o : Occurrence} {value : String} (h : Captures bindings o value) :
    Denotes bindings o (quoteIfNeeded value) := by
  cases h with
  | input hscope hdeclared hname => exact .input hscope hdeclared hname (.text _)
  | @axis _ _ _ job matrix entries combinations i place axis _ hscope hmatrix hentries hexpand hi haxis hname hvalue =>
    have hpairs : (Matrix.product ((Matrix.declaredAxes entries).map Matrix.Axis.quoted))[i]? =
        some bindings.combination.pairs := by
      rw [← Matrix.map_pairs_of_expand_ok hmatrix hentries hexpand, List.getElem?_map, hi]
      rfl
    have hquoted : ((Matrix.declaredAxes entries).map Matrix.Axis.quoted)[place]? = some axis.quoted := by
      rw [List.getElem?_map, haxis]
      rfl
    obtain ⟨shown, hshown, hpair⟩ := Matrix.product_getElem? hpairs hquoted
    rw [Matrix.digit, haxis, Option.elim_some] at hvalue
    rw [Matrix.stride_quoted, Matrix.size_quoted, Matrix.Axis.quoted, List.getElem?_map, hvalue] at hshown
    cases hshown
    exact .axis hscope (List.mem_of_getElem? hpair) hname

section Words

variable {front middle : List Char} {value : String}

theorem words_between (hfront : isClosed front = true) (hmiddle : isClosed middle = true)
    (back : List Char) : words (between front middle back) = words front ++ words middle ++ words back := by
  rw [between, words_append_separator hfront rfl, words_append_separator hmiddle rfl, List.append_assoc]

theorem isClosed_quoteIfNeeded (hplain : ∀ c ∈ value.toList, isQuoting c = false) :
    isClosed (quoteIfNeeded value).toList = true := by
  by_cases hspace : ' ' ∈ value.toList
  · rw [toList_quoteIfNeeded_of_mem hspace, isClosed_quoted hplain]
  · rw [toList_quoteIfNeeded_of_notMem hspace, isClosed_plain hplain]

theorem words_quoteIfNeeded_iff (hne : value ≠ "") (hplain : ∀ c ∈ value.toList, isQuoting c = false) :
    words (quoteIfNeeded value).toList = [value.toList] ↔
      ' ' ∈ value.toList ∨ ∀ c ∈ value.toList, c ≠ '\t' ∧ c ≠ '\n' := by
  by_cases hspace : ' ' ∈ value.toList
  · rw [toList_quoteIfNeeded_of_mem hspace]
    exact iff_of_true (words_quoted hplain) (.inl hspace)
  · have hchars : value.toList ≠ [] := fun hnil => hne (String.toList_eq_nil_iff.mp hnil)
    rw [toList_quoteIfNeeded_of_notMem hspace, words_plain_iff hchars hplain, or_iff_right hspace]
    refine forall₂_congr fun c hc => ?_
    have hother : c ≠ ' ' := fun heq => hspace (heq ▸ hc)
    simp [WordSplit.isSeparator, hother]

end Words

theorem captured_word_iff (bindings : Bindings) {o : Occurrence} {value : String} (hwritten : Written o)
    (hcaptured : Captures bindings o value) (hne : value ≠ "")
    (hplain : ∀ c ∈ value.toList, isQuoting c = false) (front back : List Char) :
    (∀ out, resolve bindings (between front o.whole back) = .ok out ↔ ∃ front' back',
      resolve bindings front = .ok front' ∧ resolve bindings back = .ok back' ∧
        out = between front' (quoteIfNeeded value).toList back') ∧
    ∀ front' back' : List Char,
      (words (between front' (quoteIfNeeded value).toList back') =
          words front' ++ [value.toList] ++ words back' ↔
        isClosed front' = true ∧ (' ' ∈ value.toList ∨ ∀ c ∈ value.toList, c ≠ '\t' ∧ c ≠ '\n')) ∧
      (isClosed front' = true → ' ' ∉ value.toList →
        words (between front' (quoteIfNeeded value).toList back') =
          words front' ++ words value.toList ++ words back') := by
  have hmiddle := isClosed_quoteIfNeeded hplain
  refine ⟨fun out => resolve_between_eq_ok_iff hwritten hcaptured.denotes front back, ?_⟩
  intro front' back'
  constructor
  · rw [← words_quoteIfNeeded_iff hne hplain]
    constructor
    · intro hwords
      have hclosed : isClosed front' = true := by
        rw [List.append_assoc] at hwords
        exact isClosed_of_words_append_space hwords
      rw [words_between hclosed hmiddle] at hwords
      exact ⟨hclosed, List.append_cancel_left (List.append_cancel_right hwords)⟩
    · rintro ⟨hclosed, hword⟩
      rw [words_between hclosed hmiddle, hword]
  · intro hclosed hspace
    rw [words_between hclosed hmiddle, toList_quoteIfNeeded_of_notMem hspace]

def brokenAxes : List (String × Document.Node) :=
  [("bare", .sequence [.string "c\nd"]), ("wide", .sequence [.string "c\n d"])]

def broken : Job :=
  let matrix := .mapping (brokenAxes.map fun e => (.string e.1, e.2))
  ⟨"build", .mapping [(.string "strategy", .mapping [(.string "matrix", matrix)])]⟩

def capturing : Bindings :=
  ⟨.ofList [("bare", .ofDefault "a\tb"), ("wide", .ofDefault "a\t b")],
    .ofPairs [("bare", "c\nd"), ("wide", "\"c\n d\"")]⟩

theorem captures_default {name value : String} (h : (name, .ofDefault value) ∈ capturing.inputs.toList) :
    Captures capturing (usual inputsWord name.toList) value :=
  .input (sameIgnoringAsciiCase_refl inputsWord) h (congrArg foldName String.ofList_toList.symm)

theorem captures_broken {place : Nat} {name value : String}
    (h : (Matrix.declaredAxes brokenAxes)[place]? = some ⟨name, [value]⟩) :
    Captures capturing (usual matrixWord name.toList) value := by
  have hdigit : Matrix.digit (Matrix.declaredAxes brokenAxes) 0 place = 0 := by
    rw [Matrix.digit, Nat.zero_div, Nat.zero_mod]
  refine @Captures.axis capturing _ _ _ broken _ brokenAxes _ 0 place _ value (by decide) rfl rfl rfl rfl h ?_ ?_
  · exact congrArg foldName String.ofList_toList.symm
  · rw [hdigit]
    rfl

theorem plain_of_any {text : List Char} (h : text.any isQuoting = false) : ∀ c ∈ text, isQuoting c = false :=
  fun c hc => Bool.eq_false_of_not_eq_true (List.any_eq_false.mp h c hc)

theorem words_of_wide :
    (resolve capturing "say 'x y' $\x7b\x7b inputs.wide \x7d\x7d end".toList =
        .ok "say 'x y' \"a\t b\" end".toList ∧
      words "say 'x y' \"a\t b\" end".toList =
        words "say 'x y'".toList ++ ["a\t b".toList] ++ words "end".toList) ∧
    resolve capturing "say 'x y' $\x7b\x7b matrix.wide \x7d\x7d end".toList =
        .ok "say 'x y' \"c\n d\" end".toList ∧
      words "say 'x y' \"c\n d\" end".toList =
        words "say 'x y'".toList ++ ["c\n d".toList] ++ words "end".toList := by
  have hname : ∀ c ∈ "wide".toList, isNameChar c = true := List.all_eq_true.mp (by decide)
  have hfront : resolve capturing "say 'x y'".toList = .ok "say 'x y'".toList := by decide +kernel
  have hback : resolve capturing "end".toList = .ok "end".toList := by decide +kernel
  have hinput : Written (usual inputsWord "wide".toList) :=
    written_usual (.inl (by unfold Spelling; decide)) (by decide) hname
  have haxis : Written (usual matrixWord "wide".toList) :=
    written_usual (.inr (by unfold Spelling; decide)) (by decide) hname
  have hdefault : Captures capturing (usual inputsWord "wide".toList) "a\t b" :=
    captures_default (by decide +kernel)
  have hvalue : Captures capturing (usual matrixWord "wide".toList) "c\n d" :=
    captures_broken (show (Matrix.declaredAxes brokenAxes)[1]? = _ by decide +kernel)
  obtain ⟨hresolve, hwords⟩ := captured_word_iff capturing hinput hdefault (by decide) (plain_of_any (by decide))
    "say 'x y'".toList "end".toList
  obtain ⟨haxisResolve, haxisWords⟩ := captured_word_iff capturing haxis hvalue (by decide) (plain_of_any (by decide))
    "say 'x y'".toList "end".toList
  have hclosed : isClosed "say 'x y'".toList = true := by decide
  refine ⟨⟨(hresolve _).mpr ⟨_, _, hfront, hback, rfl⟩, ?_⟩, (haxisResolve _).mpr ⟨_, _, hfront, hback, rfl⟩, ?_⟩
  · exact (hwords "say 'x y'".toList "end".toList).1.mpr ⟨hclosed, .inl (by decide)⟩
  · exact (haxisWords "say 'x y'".toList "end".toList).1.mpr ⟨hclosed, .inl (by decide)⟩

theorem captured_word_falls_apart :
    (Captures capturing (usual inputsWord "bare".toList) "a\tb" ∧
      resolve capturing "echo $\x7b\x7b inputs.bare \x7d\x7d end".toList = .ok "echo a\tb end".toList ∧
      words "echo a\tb end".toList ≠ words "echo".toList ++ ["a\tb".toList] ++ words "end".toList) ∧
    Captures capturing (usual matrixWord "bare".toList) "c\nd" ∧
      resolve capturing "echo $\x7b\x7b matrix.bare \x7d\x7d end".toList = .ok "echo c\nd end".toList ∧
      words "echo c\nd end".toList ≠ words "echo".toList ++ ["c\nd".toList] ++ words "end".toList := by
  refine ⟨⟨captures_default (by decide +kernel), ?_⟩,
    captures_broken (show (Matrix.declaredAxes brokenAxes)[0]? = _ by decide +kernel), ?_⟩
  · decide +kernel
  · decide +kernel

end WorkflowScript.Placeholder
