import Mathlib.Data.List.Induction
import WorkflowScript.Proofs.Text.Blank
import WorkflowScript.Proofs.Text.Pieces
import WorkflowScript.Script.Line

namespace WorkflowScript.Line

open Text

inductive Redirect : List Char → Prop
  | intro {a mark b : List Char} (ha : allBlank a = true) (hmark : mark = ['>'] ∨ mark = ['>', '>'])
      (hb : allBlank b = true) : Redirect (a ++ (mark ++ (b ++ summaryVariable)))

theorem Redirect.ne_nil {whole : List Char} (h : Redirect whole) : whole ≠ [] := by
  cases h with
  | intro ha hmark hb =>
    have hvariable : summaryVariable ≠ [] := by decide
    simp [hvariable]

theorem Redirect.dollar_mem {whole : List Char} (h : Redirect whole) : '$' ∈ whole := by
  cases h with
  | intro ha hmark hb =>
    have hvariable : '$' ∈ summaryVariable := by decide
    simp [hvariable]

section Reading

variable {text rest : List Char}

theorem trimStart_summary (rest : List Char) :
    trimStart (summaryVariable ++ rest) = summaryVariable ++ rest := trimStart_cons (by decide) _

theorem second_mark_iff {t : List Char} :
    trimStart ((afterLiteral? ['>'] t).getD t) = summaryVariable ++ rest ↔
      ∃ more b, (more = [] ∨ more = ['>']) ∧ allBlank b = true ∧
        t = more ++ (b ++ (summaryVariable ++ rest)) := by
  constructor
  · intro h
    obtain ⟨b, hb, ht⟩ := exists_eq_append_trimStart ((afterLiteral? ['>'] t).getD t)
    rw [h] at ht
    cases hread : afterLiteral? ['>'] t with
    | none =>
      rw [hread] at ht
      exact ⟨[], b, .inl rfl, hb, ht⟩
    | some u =>
      rw [hread] at ht
      refine ⟨['>'], b, .inr rfl, hb, ?_⟩
      rw [afterLiteral?_eq_some_iff.mp hread]
      exact congrArg _ ht
  · rintro ⟨more, b, hmore, hb, rfl⟩
    have hvisible : trimStart (b ++ (summaryVariable ++ rest)) = summaryVariable ++ rest := by
      rw [trimStart_append hb, trimStart_summary]
    rcases hmore with rfl | rfl
    · have hnone : afterLiteral? ['>'] (b ++ (summaryVariable ++ rest)) = none := by
        cases b with
        | nil => rfl
        | cons c b =>
          have hc : '>' ≠ c := by
            rintro rfl
            cases hb
          rw [List.cons_append, afterLiteral?, if_neg hc]
      rw [List.nil_append, hnone]
      exact hvisible
    · exact hvisible

theorem afterRedirect?_eq_some_iff :
    afterRedirect? text = some rest ↔ ∃ whole, Redirect whole ∧ text = whole ++ rest := by
  simp only [afterRedirect?, Option.bind_eq_bind, Option.bind_eq_some_iff, afterLiteral?_eq_some_iff,
    second_mark_iff]
  constructor
  · rintro ⟨t, ht, more, b, hmore, hb, rfl⟩
    obtain ⟨a, ha, htext⟩ := exists_eq_append_trimStart text
    have hmark : '>' :: more = ['>'] ∨ '>' :: more = ['>', '>'] :=
      hmore.imp (congrArg _) (congrArg _)
    refine ⟨_, .intro ha hmark hb, ?_⟩
    rw [htext, ht]
    simp
  · rintro ⟨whole, hwhole, rfl⟩
    cases hwhole with
    | @intro a mark b ha hmark hb =>
      obtain ⟨more, rfl, hmore⟩ : ∃ more, mark = '>' :: more ∧ (more = [] ∨ more = ['>']) := by
        rcases hmark with rfl | rfl
        · exact ⟨[], rfl, .inl rfl⟩
        · exact ⟨['>'], rfl, .inr rfl⟩
      refine ⟨more ++ (b ++ (summaryVariable ++ rest)), ?_, more, b, hmore, hb, rfl⟩
      simp only [List.append_assoc, List.cons_append]
      rw [trimStart_append ha]
      exact trimStart_cons (by decide) _

theorem redirect_eq_some_iff {o : Occurrence} :
    redirect text = some o ↔ Redirect o.whole ∧ o.groups = [] ∧ ∃ rest, text = o.whole ++ rest := by
  simp only [redirect, Option.map_eq_some_iff, afterRedirect?_eq_some_iff]
  constructor
  · rintro ⟨rest, ⟨whole, hwhole, rfl⟩, rfl⟩
    have hupTo : upTo (whole ++ rest) rest = whole := by simp [upTo]
    rw [hupTo]
    exact ⟨hwhole, rfl, rest, rfl⟩
  · rintro ⟨hwhole, hgroups, rest, rfl⟩
    obtain ⟨whole, groups⟩ := o
    subst hgroups
    exact ⟨rest, ⟨whole, hwhole, rfl⟩, by simp [upTo]⟩

theorem redirect_append {whole : List Char} (h : Redirect whole) (rest : List Char) :
    redirect (whole ++ rest) = some ⟨whole, []⟩ := redirect_eq_some_iff.mpr ⟨h, rfl, rest, rfl⟩

theorem redirect_faithful : Recogniser.Faithful redirect := by
  intro text o h
  obtain ⟨hwhole, -, hrest⟩ := redirect_eq_some_iff.mp h
  exact ⟨hwhole.ne_nil, hrest⟩

theorem redirect_of_mem_pieces {o : Occurrence} (h : .occurrence o ∈ pieces redirect text) :
    Redirect o.whole := by
  have hmem : o ∈ occurrences redirect text := List.mem_filterMap.mpr ⟨_, h, rfl⟩
  obtain ⟨rest, hrest⟩ := recognise_of_mem_occurrences hmem
  exact (redirect_eq_some_iff.mp hrest).1

def withoutRedirects (line : List Char) : List Char := replaceAll redirect (fun _ => []) line

theorem stripSummary_eq (line : List Char) : stripSummary line = trimEnd (withoutRedirects line) := rfl

theorem withoutRedirects_redirect {whole : List Char} (h : Redirect whole) (rest : List Char) :
    withoutRedirects (whole ++ rest) = withoutRedirects rest := by
  have hpieces : pieces redirect (whole ++ rest) = .occurrence ⟨whole, []⟩ :: pieces redirect rest :=
    @pieces_append redirect ⟨whole, []⟩ rest h.ne_nil (redirect_append h rest)
  rw [withoutRedirects, replaceAll, hpieces]
  rfl

theorem withoutRedirects_plain {c : Char} (h : redirect (c :: text) = none) :
    withoutRedirects (c :: text) = c :: withoutRedirects text := replaceAll_cons_of_none h

end Reading

section End

variable {text : List Char}

def EndsInRedirect (text : List Char) : Prop :=
  ∃ front whole gap, text = front ++ (whole ++ gap) ∧ Redirect whole ∧ allBlank gap = true

theorem lastVisible_of_endsInRedirect (h : EndsInRedirect text) : lastVisible text = some 'Y' := by
  obtain ⟨front, whole, gap, rfl, hwhole, hgap⟩ := h
  rw [← List.append_assoc, lastVisible_append_blank hgap]
  cases hwhole with
  | intro ha hmark hb =>
    have hvariable : allBlank summaryVariable = false := by decide
    simp only [← List.append_assoc]
    rw [lastVisible_append_open hvariable]
    decide

theorem lastVisible_substitute (parts : List Piece)
    (h : ∀ o, .occurrence o ∈ parts → Redirect o.whole) :
    EndsInRedirect (parts.flatMap Piece.source) ∨
      lastVisible (parts.flatMap (Piece.substitute fun _ => [])) =
        lastVisible (parts.flatMap Piece.source) := by
  induction parts using List.reverseRecOn with
  | nil => exact .inr rfl
  | append_singleton parts part ih =>
    rw [List.flatMap_append, List.flatMap_append, List.flatMap_singleton, List.flatMap_singleton]
    cases part with
    | occurrence o =>
      left
      exact ⟨_, o.whole, [], by rw [List.append_nil]; rfl, h o (by simp), rfl⟩
    | plain c =>
      change EndsInRedirect (_ ++ [c]) ∨ lastVisible (_ ++ [c]) = lastVisible (_ ++ [c])
      cases hc : isBlank c with
      | false => exact .inr (by rw [lastVisible_concat hc, lastVisible_concat hc])
      | true =>
        have hblank : allBlank [c] = true := by simp [allBlank, hc]
        rw [lastVisible_append_blank hblank, lastVisible_append_blank hblank]
        refine (ih fun o ho => h o (List.mem_append_left _ ho)).imp_left ?_
        rintro ⟨front, whole, gap, htext, hwhole, hgap⟩
        refine ⟨front, whole, gap ++ [c], ?_, hwhole, ?_⟩
        · rw [htext]
          simp only [List.append_assoc]
        · rw [allBlank_append, hgap, hblank]
          rfl

theorem getLast?_stripSummary (text : List Char) :
    EndsInRedirect text ∨ (stripSummary text).getLast? = lastVisible text := by
  have h := lastVisible_substitute (pieces redirect text) fun o => redirect_of_mem_pieces
  rw [source_pieces redirect_faithful] at h
  exact h

end End

end WorkflowScript.Line
