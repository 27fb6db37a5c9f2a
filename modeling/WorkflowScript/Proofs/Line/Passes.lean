import WorkflowScript.Proofs.Line.Cases
import WorkflowScript.Proofs.Line.Comment
import WorkflowScript.Proofs.Line.Redirect
import WorkflowScript.Proofs.Template.Substitution

namespace WorkflowScript.Line

open Text

inductive Uncommented (raw source : List Char) : Prop
  | cut {before rest : List Char} (h : Leftmost (CommentMark raw) before rest) (htrim : Trimmed before source)
  | whole (h : ∀ before rest, ¬ CommentMark raw before rest) (htrim : Trimmed raw source)

inductive Unredirected : List Char → List Char → Prop
  | nil : Unredirected [] []
  | redirect {whole rest out : List Char} (h : Redirect whole) (hrest : Unredirected rest out) :
      Unredirected (whole ++ rest) out
  | plain {c : Char} {rest out : List Char} (h : ∀ whole tail, Redirect whole → c :: rest ≠ whole ++ tail)
      (hrest : Unredirected rest out) : Unredirected (c :: rest) (c :: out)

inductive Renumbered : List Char → List Char → Prop
  | nil : Renumbered [] []
  | number {d : Char} {rest out : List Char} (hd : d.isDigit = true) (hrest : Renumbered rest out) :
      Renumbered ('$' :: d :: rest) ('%' :: d :: out)
  | plain {c : Char} {rest out : List Char} (h : ∀ d tail, c :: rest = '$' :: d :: tail → d.isDigit = false)
      (hrest : Renumbered rest out) : Renumbered (c :: rest) (c :: out)

inductive Remarked : List Char → List Char → Prop
  | single {head : List Char} (h : head.getLast? ≠ some '\\') : Remarked (head ++ ['\\']) (head ++ ['^'])
  | other {line : List Char} (h : ∀ head, line = head ++ ['\\'] → head.getLast? = some '\\') :
      Remarked line line

inductive Retimed : List Char → List Char → Prop
  | pause {digits line : List Char} (h : Pause digits line) :
      Retimed line ("TIMEOUT /T ".toList ++ digits ++ " /NOBREAK >nul".toList)
  | other {line : List Char} (h : ∀ digits, ¬ Pause digits line) : Retimed line line

inductive PassesTo (bindings : Bindings) (raw text : List Char) : Prop
  | intro {source resolved bare trimmed renumbered remarked : List Char} {parts : List Piece}
      {values : List (List Char)} (hsource : Uncommented raw source) (hopen : allBlank source = false)
      (hhash : ∀ gap rest, allBlank gap = true → source ≠ gap ++ '#' :: rest)
      (hparts : Placeholder.Cuts source parts)
      (hvalues : List.Forall₂ (Placeholder.Becomes bindings) parts values) (hresolved : resolved = values.flatten)
      (hbare : Unredirected resolved bare) (htrim : Trimmed bare trimmed)
      (hnumber : Renumbered trimmed renumbered) (hmark : Remarked renumbered remarked)
      (htime : Retimed remarked text)

section Pass

variable {raw source line out rest : List Char} {c : Char}

theorem uncommented_iff : Uncommented raw source ↔ source = stripComment raw := by
  constructor
  · intro h
    cases h with
    | cut h htrim => rw [trimmed_iff.mp htrim, stripComment, beforeComment_of_leftmost h]
    | whole h htrim => rw [trimmed_iff.mp htrim, stripComment, beforeComment_of_none h]
  · rintro rfl
    rcases beforeComment_spec raw with ⟨rest, hfirst⟩ | ⟨hall, hnone⟩
    · exact .cut hfirst (trimmed_iff.mpr rfl)
    · refine .whole hnone (trimmed_iff.mpr ?_)
      rw [stripComment, hall]

theorem redirect_eq_none_iff :
    redirect line = none ↔ ∀ whole tail, Redirect whole → line ≠ whole ++ tail := by
  rw [Option.eq_none_iff_forall_ne_some]
  constructor
  · rintro hnone whole tail hwhole rfl
    exact hnone _ (redirect_append hwhole tail)
  · intro h o ho
    obtain ⟨hwhole, -, tail, hline⟩ := redirect_eq_some_iff.mp ho
    exact h _ tail hwhole hline

theorem unredirected_iff : Unredirected line out ↔ out = withoutRedirects line := by
  constructor
  · intro h
    induction h with
    | nil => exact (replaceAll_nil _ _).symm
    | redirect hwhole _ ih => rw [ih, withoutRedirects_redirect hwhole]
    | plain hnone _ ih => rw [ih, withoutRedirects_plain (redirect_eq_none_iff.mpr hnone)]
  · rintro rfl
    induction line using pieces_induction redirect_faithful with
    | nil =>
      rw [withoutRedirects, replaceAll_nil]
      exact .nil
    | occurrence o rest h ih =>
      obtain ⟨hwhole, -, -⟩ := redirect_eq_some_iff.mp h
      rw [withoutRedirects_redirect hwhole]
      exact .redirect hwhole ih
    | plain c rest h ih =>
      rw [withoutRedirects_plain h]
      exact .plain (redirect_eq_none_iff.mp h) ih

theorem startsWithDigit_iff : (c = '$' → startsWithDigit rest = false) ↔
    ∀ d tail, c :: rest = '$' :: d :: tail → d.isDigit = false := by
  constructor
  · intro h d tail heq
    obtain ⟨rfl, rfl⟩ := List.cons.inj heq
    exact h rfl
  · rintro h rfl
    cases rest with
    | nil => rfl
    | cons d tail => exact h d tail rfl

theorem renumbered_iff : Renumbered line out ↔ out = rewritePositional line := by
  constructor
  · intro h
    induction h with
    | nil => exact rewritePositional_nil.symm
    | number hd _ ih => rw [ih, rewritePositional_number hd]
    | plain hplain _ ih => rw [ih, rewritePositional_plain (startsWithDigit_iff.mpr hplain)]
  · rintro rfl
    induction line using positional_induction with
    | nil =>
      rw [rewritePositional_nil]
      exact .nil
    | number d line hd ih =>
      rw [rewritePositional_number hd]
      exact .number hd ih
    | plain c line h ih =>
      rw [rewritePositional_plain h]
      exact .plain (startsWithDigit_iff.mp h) ih

theorem remarked_iff : Remarked line out ↔ out = rewriteBackslash line := by
  constructor
  · intro h
    cases h with
    | single h => exact (rewriteBackslash_single h).symm
    | other h => exact (rewriteBackslash_of_other h).symm
  · rintro rfl
    by_cases h : ∃ head, line = head ++ ['\\'] ∧ head.getLast? ≠ some '\\'
    · obtain ⟨head, rfl, hhead⟩ := h
      rw [rewriteBackslash_single hhead]
      exact .single hhead
    · push Not at h
      rw [rewriteBackslash_of_other h]
      exact .other h

theorem retimed_iff : Retimed line out ↔ out = rewriteSleep .batch line := by
  constructor
  · intro h
    cases h with
    | pause h => exact (rewriteSleep_of_pause h .batch).symm
    | other h => exact (rewriteSleep_of_not_pause h .batch).symm
  · rintro rfl
    by_cases h : ∃ digits, Pause digits line
    · obtain ⟨digits, h⟩ := h
      rw [rewriteSleep_of_pause h]
      exact .pause h
    · rw [rewriteSleep_of_not_pause (not_exists.mp h)]
      exact .other (not_exists.mp h)

end Pass

variable {bindings : Bindings} {raw text source resolved : List Char}

theorem isElided_eq_false_iff : isElided source = false ↔
    allBlank source = false ∧ ∀ gap rest, allBlank gap = true → source ≠ gap ++ '#' :: rest := by
  rw [← Bool.not_eq_true, isElided_iff, not_or, Bool.not_eq_true]
  simp only [not_exists, not_and, ne_eq]

theorem resolve_iff_cuts : Placeholder.resolve bindings source = .ok resolved ↔
    ∃ parts values, Placeholder.Cuts source parts ∧
      List.Forall₂ (Placeholder.Becomes bindings) parts values ∧ resolved = values.flatten := by
  rw [Placeholder.resolve_eq_ok_iff_becomes]
  constructor
  · rintro ⟨values, hvalues, hresolved⟩
    exact ⟨_, values, Placeholder.cuts_pieces source, hvalues, hresolved⟩
  · rintro ⟨parts, values, hparts, hvalues, hresolved⟩
    exact ⟨values, hparts.eq_pieces ▸ hvalues, hresolved⟩

theorem comesTo_iff_passesTo : ComesTo .batch bindings raw text ↔ PassesTo bindings raw text := by
  constructor
  · rintro ⟨hkept, resolved, hresolved, rfl⟩
    obtain ⟨hopen, hhash⟩ := isElided_eq_false_iff.mp hkept
    obtain ⟨parts, values, hparts, hvalues, hflatten⟩ := resolve_iff_cuts.mp hresolved
    exact .intro (uncommented_iff.mpr rfl) hopen hhash hparts hvalues hflatten (unredirected_iff.mpr rfl)
      (trimmed_iff.mpr rfl) (renumbered_iff.mpr rfl) (remarked_iff.mpr rfl) (retimed_iff.mpr rfl)
  · rintro ⟨hsource, hopen, hhash, hparts, hvalues, hresolved, hbare, htrim, hnumber, hmark, htime⟩
    obtain rfl := uncommented_iff.mp hsource
    refine ⟨isElided_eq_false_iff.mpr ⟨hopen, hhash⟩, _, resolve_iff_cuts.mpr ⟨_, _, hparts, hvalues, hresolved⟩, ?_⟩
    rw [retimed_iff.mp htime, remarked_iff.mp hmark, renumbered_iff.mp hnumber, trimmed_iff.mp htrim,
      unredirected_iff.mp hbare]
    rfl

end WorkflowScript.Line
