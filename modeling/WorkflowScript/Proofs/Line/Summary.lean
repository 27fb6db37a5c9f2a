import WorkflowScript.Proofs.Fragment.Run
import WorkflowScript.Proofs.Line.Guard
import WorkflowScript.Proofs.Line.Plain
import WorkflowScript.Proofs.Template.Split
import WorkflowScript.Proofs.Text.Cut
import WorkflowScript.Text.Letter

namespace WorkflowScript.Line

open Text Outcome

def Redirects (front : List Char) : Prop := ∃ head gap, front = head ++ '>' :: gap ∧ allBlank gap = true

section Places

variable {front front' rest rest' whole text : List Char} {c : Char}

def summaryName : List Char := "GITHUB_STEP_SUMMARY".toList

theorem summaryVariable_eq : summaryVariable = '$' :: summaryName := by decide

theorem dollar_notMem_summaryName : '$' ∉ summaryName := by decide

theorem Redirect.exists_front (h : Redirect whole) :
    ∃ front, whole = front ++ summaryVariable ∧ '$' ∉ front ∧ Redirects front := by
  cases h with
  | @intro a mark b ha hmark hb =>
    have hdollar : '$' ∉ mark := by rcases hmark with rfl | rfl <;> decide
    refine ⟨a ++ (mark ++ b), by simp, ?_, ?_⟩
    · have ha : '$' ∉ a := notMem_of_allBlank ha (by decide)
      have hb : '$' ∉ b := notMem_of_allBlank hb (by decide)
      simp [ha, hb, hdollar]
    · rcases hmark with rfl | rfl
      · exact ⟨a, b, rfl, hb⟩
      · exact ⟨a ++ ['>'], b, by simp, hb⟩

theorem redirect_of_blank {gap : List Char} (h : allBlank gap = true) : Redirect ('>' :: (gap ++ summaryVariable)) :=
  @Redirect.intro [] ['>'] gap rfl (.inl rfl) h

theorem Redirects.append (h : Redirects front) (lead : List Char) : Redirects (lead ++ front) := by
  obtain ⟨head, gap, rfl, hgap⟩ := h
  exact ⟨lead ++ head, gap, by simp, hgap⟩

theorem redirect_ne_none (h : Redirects front) (rest : List Char) :
    ∃ tail, tail <:+ front ++ (summaryVariable ++ rest) ∧ redirect tail ≠ none := by
  obtain ⟨head, gap, rfl, hgap⟩ := h
  refine ⟨'>' :: (gap ++ summaryVariable) ++ rest, ⟨head, by simp⟩, ?_⟩
  rw [redirect_append (redirect_of_blank hgap)]
  exact Option.some_ne_none _

theorem variable_places (h : front ++ (summaryVariable ++ rest) = front' ++ (summaryVariable ++ rest'))
    (hfront : '$' ∉ front) : (front' = front ∧ rest' = rest) ∨
      ∃ middle, front' = front ++ (summaryVariable ++ middle) ∧ rest = middle ++ (summaryVariable ++ rest') := by
  rcases List.append_eq_append_iff.mp h with ⟨middle, rfl, hmiddle⟩ | ⟨middle, hlong, hmiddle⟩
  · by_cases hnil : middle = []
    · subst hnil
      exact .inl ⟨List.append_nil front, (List.append_cancel_left hmiddle).symm⟩
    · right
      have hprefix : summaryVariable <+: middle ++ (summaryVariable ++ rest') :=
        hmiddle ▸ List.prefix_append _ _
      rw [summaryVariable_eq] at hprefix
      obtain ⟨inner, rfl⟩ := prefix_of_prefix_append dollar_notMem_summaryName hnil hprefix
      rw [← summaryVariable_eq] at hmiddle ⊢
      refine ⟨inner, rfl, ?_⟩
      rw [List.append_assoc] at hmiddle
      exact List.append_cancel_left hmiddle
  · cases middle with
    | nil =>
      rw [List.append_nil] at hlong
      exact .inl ⟨hlong.symm, List.append_cancel_left hmiddle⟩
    | cons c middle =>
      -- the second occurrence would start in what stands before the first
      rw [summaryVariable_eq] at hmiddle
      obtain ⟨rfl, -⟩ := List.cons.inj hmiddle
      rw [hlong] at hfront
      exact absurd (List.mem_append_right _ List.mem_cons_self) hfront

end Places

section Removed

variable {line text : List Char}

theorem count_withoutRedirects (line : List Char) :
    (withoutRedirects line).count '$' + (occurrences redirect line).length ≤ line.count '$' := by
  induction line using pieces_induction redirect_faithful with
  | nil => simp [withoutRedirects, replaceAll_nil, occurrences, pieces_nil]
  | occurrence o rest h ih =>
    obtain ⟨hwhole, -, -⟩ := redirect_eq_some_iff.mp h
    have hpieces := pieces_append hwhole.ne_nil h
    have hdollar : 0 < o.whole.count '$' := List.count_pos_iff.mpr hwhole.dollar_mem
    have hfound : occurrences redirect (o.whole ++ rest) = o :: occurrences redirect rest := by
      rw [occurrences, hpieces]
      rfl
    rw [withoutRedirects_redirect hwhole, hfound, List.length_cons, List.count_append]
    omega
  | plain c text h ih =>
    rw [withoutRedirects_plain h, occurrences_cons_of_none h, List.count_cons, List.count_cons]
    omega

theorem count_trimEnd (text : List Char) : (trimEnd text).count '$' = text.count '$' := by
  obtain ⟨gap, hgap, htext⟩ := exists_eq_trimEnd_append text
  have hnone : gap.count '$' = 0 := List.count_eq_zero.mpr (notMem_of_allBlank hgap (by decide))
  calc (trimEnd text).count '$' = (trimEnd text ++ gap).count '$' := by rw [List.count_append, hnone, Nat.add_zero]
    _ = text.count '$' := by rw [← htext]

theorem redirect_eq_none_of_unredirected
    (h : ∀ front rest, line = front ++ (summaryVariable ++ rest) → ¬ Redirects front) :
    ∀ tail, tail <:+ line → redirect tail = none := by
  rintro tail ⟨lead, rfl⟩
  rw [Option.eq_none_iff_forall_ne_some]
  intro o ho
  obtain ⟨hwhole, -, rest, rfl⟩ := redirect_eq_some_iff.mp ho
  obtain ⟨front, hfront, -, hredirects⟩ := hwhole.exists_front
  refine h (lead ++ front) rest ?_ (hredirects.append lead)
  rw [hfront]
  simp

theorem stripSummary_eq_trimEnd_iff : stripSummary line = trimEnd line ↔
    ∀ front rest, line = front ++ (summaryVariable ++ rest) → ¬ Redirects front := by
  constructor
  · rintro hstrip front rest rfl hredirects
    have hcount := count_withoutRedirects (front ++ (summaryVariable ++ rest))
    rw [← count_trimEnd, ← stripSummary_eq, hstrip, count_trimEnd] at hcount
    have hnone : occurrences redirect (front ++ (summaryVariable ++ rest)) = [] :=
      List.length_eq_zero_iff.mp (by omega)
    obtain ⟨tail, hsuffix, htail⟩ := redirect_ne_none hredirects rest
    cases tail with
    | nil => exact htail (by decide)
    | cons c tail => exact htail (recognise_of_occurrences_eq_nil hnone hsuffix)
  · intro h
    rw [stripSummary, replaceAll_eq_self (redirect_eq_none_of_unredirected h)]

end Removed

section Kept

variable {front rest text : List Char} {c : Char}

theorem redirect_eq_none_of_visible (hblank : isBlank c = false) (hmark : c ≠ '>') (rest : List Char) :
    redirect (c :: rest) = none := by
  have hread : afterLiteral? ['>'] (trimStart (c :: rest)) = none := by
    rw [trimStart_cons hblank, afterLiteral?, if_neg hmark.symm]
  rw [redirect, afterRedirect?, hread]
  rfl

theorem withoutRedirects_append_of_visible (h : ∀ c ∈ front, isBlank c = false ∧ c ≠ '>') (rest : List Char) :
    withoutRedirects (front ++ rest) = front ++ withoutRedirects rest := by
  induction front with
  | nil => rfl
  | cons c front ih =>
    obtain ⟨⟨hblank, hmark⟩, hfront⟩ := List.forall_mem_cons.mp h
    rw [List.cons_append, withoutRedirects_plain (redirect_eq_none_of_visible hblank hmark _), ih hfront,
      List.cons_append]

theorem visible_of_mem_summaryVariable : ∀ c ∈ summaryVariable, isBlank c = false ∧ c ≠ '>' := by
  have hall : (summaryVariable.all fun c => !isBlank c && c != '>') = true := by decide
  intro c hc
  simpa using List.all_eq_true.mp hall c hc

theorem Redirect.places (h : Redirect text) {tail : List Char}
    (htext : text ++ tail = front ++ (summaryVariable ++ rest)) :
    (Redirects front ∧ tail = rest) ∨
      ∃ middle, front = text ++ middle ∧ tail = middle ++ (summaryVariable ++ rest) := by
  obtain ⟨lead, rfl, hdollar, hredirects⟩ := h.exists_front
  rw [List.append_assoc] at htext
  rcases variable_places htext hdollar with ⟨rfl, hrest⟩ | ⟨middle, hfront, htail⟩
  · exact .inl ⟨hredirects, hrest.symm⟩
  · exact .inr ⟨middle, by rw [hfront, List.append_assoc], htail⟩

theorem not_numbered_withoutRedirects (h : ¬ Redirects front) :
    ¬ Numbered (withoutRedirects (front ++ (summaryVariable ++ rest))) := by
  generalize htext : front ++ (summaryVariable ++ rest) = text
  induction text using pieces_induction redirect_faithful generalizing front with
  | nil =>
    rw [summaryVariable_eq] at htext
    simp at htext
  | occurrence o tail ho ih =>
    obtain ⟨hwhole, -, -⟩ := redirect_eq_some_iff.mp ho
    rw [withoutRedirects_redirect hwhole]
    rcases hwhole.places htext.symm with ⟨hredirects, -⟩ | ⟨middle, rfl, htail⟩
    · exact absurd hredirects h
    · exact ih (fun hmiddle => h (hmiddle.append _)) htail.symm
  | plain c tail hc ih =>
    rw [withoutRedirects_plain hc]
    cases front with
    | nil =>
      -- the letter behind the `$` stays where it is
      rw [List.nil_append, summaryVariable_eq] at htext
      obtain ⟨rfl, rfl⟩ := List.cons.inj htext
      intro hnumbered
      have hvisible : ∀ c ∈ summaryName, isBlank c = false ∧ c ≠ '>' := fun c hc =>
        visible_of_mem_summaryVariable c (summaryVariable_eq ▸ List.mem_cons_of_mem '$' hc)
      have hname : withoutRedirects (summaryName ++ rest) = summaryName ++ withoutRedirects rest :=
        withoutRedirects_append_of_visible hvisible rest
      have hdigit : startsWithDigit (withoutRedirects (summaryName ++ rest)) = true := hnumbered.1 rfl
      rw [hname] at hdigit
      cases hdigit
    | cons d front =>
      obtain ⟨rfl, htail⟩ := List.cons.inj htext
      exact fun hnumbered => ih (fun hfront => h (hfront.append [d])) htail hnumbered.2

theorem mem_withoutRedirects (hblank : isBlank c = false) (hmark : c ≠ '>') (front rest : List Char) :
    c ∈ withoutRedirects (front ++ (summaryVariable ++ c :: rest)) := by
  generalize htext : front ++ (summaryVariable ++ c :: rest) = text
  induction text using pieces_induction redirect_faithful generalizing front with
  | nil => simp at htext
  | occurrence o tail ho ih =>
    obtain ⟨hwhole, -, -⟩ := redirect_eq_some_iff.mp ho
    rw [withoutRedirects_redirect hwhole]
    rcases hwhole.places htext.symm with ⟨-, rfl⟩ | ⟨middle, rfl, htail⟩
    · rw [withoutRedirects_plain (redirect_eq_none_of_visible hblank hmark _)]
      exact List.mem_cons_self
    · exact ih middle htail.symm
  | plain d tail hd ih =>
    cases front with
    | nil =>
      rw [List.nil_append] at htext
      rw [← htext, withoutRedirects_append_of_visible visible_of_mem_summaryVariable,
        withoutRedirects_plain (redirect_eq_none_of_visible hblank hmark _)]
      exact List.mem_append_right _ List.mem_cons_self
    | cons e front =>
      obtain ⟨rfl, htail⟩ := List.cons.inj htext
      rw [withoutRedirects_plain hd]
      exact List.mem_cons_of_mem _ (ih front htail)

end Kept

section Lost

variable {lead front text : List Char} {c : Char}

theorem Redirects.of_cons (h : Redirects (c :: front)) : (c = '>' ∧ allBlank front = true) ∨ Redirects front := by
  obtain ⟨head, gap, heq, hgap⟩ := h
  cases head with
  | nil =>
    obtain ⟨rfl, rfl⟩ := List.cons.inj heq
    exact .inl ⟨rfl, hgap⟩
  | cons d head =>
    obtain ⟨-, rfl⟩ := List.cons.inj heq
    exact .inr ⟨head, gap, rfl, hgap⟩

theorem Redirects.of_append (h : Redirects (lead ++ c :: front)) (hblank : isBlank c = false) (hmark : c ≠ '>') :
    Redirects front := by
  induction lead with
  | nil => exact h.of_cons.resolve_left fun hc => hmark hc.1
  | cons d lead ih =>
    refine ih (h.of_cons.resolve_left fun hd => ?_)
    exact notMem_of_allBlank hd.2 hblank (List.mem_append_right lead List.mem_cons_self)

theorem Redirect.exists_concat (h : Redirect text) : ∃ lead, text = lead ++ ['Y'] := by
  obtain ⟨front, rfl, -, -⟩ := h.exists_front
  exact ⟨front ++ summaryVariable.dropLast, by rw [List.append_assoc]; rfl⟩

def AllRedirected (text : List Char) : Prop :=
  ∀ front rest, text = front ++ '$' :: rest → Redirects front ∧ summaryVariable <+: '$' :: rest

theorem dollar_notMem_withoutRedirects (h : AllRedirected text) : '$' ∉ withoutRedirects text := by
  induction text using pieces_induction redirect_faithful with
  | nil => simp [withoutRedirects, replaceAll_nil]
  | occurrence o tail ho ih =>
    obtain ⟨hwhole, -, -⟩ := redirect_eq_some_iff.mp ho
    obtain ⟨lead, hlead⟩ := hwhole.exists_concat
    rw [withoutRedirects_redirect hwhole]
    refine ih fun front rest htail => ?_
    obtain ⟨hredirects, hvariable⟩ := h (o.whole ++ front) rest (by rw [htail, List.append_assoc])
    rw [hlead, List.append_assoc] at hredirects
    exact ⟨hredirects.of_append (by decide) (by decide), hvariable⟩
  | plain c tail hc ih =>
    rw [withoutRedirects_plain hc, List.mem_cons, not_or]
    constructor
    · rintro rfl
      obtain ⟨⟨head, gap, heq, -⟩, -⟩ := h [] tail rfl
      simp at heq
    · refine ih fun front rest htail => ?_
      obtain ⟨hredirects, hvariable⟩ := h (c :: front) rest (by rw [htail]; rfl)
      refine ⟨hredirects.of_cons.resolve_left ?_, hvariable⟩
      -- otherwise a redirect begins with this character
      rintro ⟨rfl, hblank⟩
      obtain ⟨behind, hbehind⟩ := hvariable
      have hread := redirect_append (redirect_of_blank hblank) behind
      rw [List.cons_append, List.append_assoc, hbehind, ← htail, hc] at hread
      cases hread

end Lost

section Name

variable {c : Char}

def lengthensName (c : Char) : Bool := c == '_' || isAlphanumeric c

theorem alphanumericRanges_visible :
    ∀ range ∈ alphanumericRanges, 0x3E < range.1 ∧
      (range.2 < 0x85 ∨ 0x85 < range.1) ∧ (range.2 < 0xA0 ∨ 0xA0 < range.1) ∧
      (range.2 < 0x1680 ∨ 0x1680 < range.1) ∧ (range.2 < 0x2000 ∨ 0x205F < range.1) ∧
      (range.2 < 0x3000 ∨ 0x3000 < range.1) := by
  decide +kernel

theorem visible_of_isAlphanum (h : c.isAlphanum = true) : isBlank c = false ∧ c ≠ '>' := by
  refine ⟨Placeholder.isBlank_of_isNameChar (by rw [Placeholder.isNameChar, h]; rfl), ?_⟩
  rintro rfl
  cases h

theorem visible_of_lengthensName (h : lengthensName c = true) : isBlank c = false ∧ c ≠ '>' := by
  simp only [lengthensName, isAlphanumeric, Bool.or_eq_true, beq_iff_eq] at h
  rcases h with rfl | h | h
  · decide
  · exact visible_of_isAlphanum h
  · obtain ⟨range, hmem, hrange⟩ := List.any_eq_true.mp h
    have hvisible := alphanumericRanges_visible range hmem
    simp only [Bool.and_eq_true, decide_eq_true_eq] at hrange
    constructor
    · simp only [isBlank, Bool.or_eq_false_iff, Bool.and_eq_false_iff, decide_eq_false_iff_not,
        beq_eq_false_iff_ne]
      omega
    · rintro rfl
      exact absurd hrange.1 (Nat.not_le.mpr hvisible.1)

end Name

section Refused

variable {target : Target} {continuing : Continuing}

theorem hasLooseDollar_of_not_redirects {front rest : List Char} (h : ¬ Redirects front) :
    HasLooseDollar (stripSummary (front ++ (summaryVariable ++ rest))) := by
  rw [← not_numbered_iff, stripSummary_eq, numbered_trimEnd_iff]
  exact not_numbered_withoutRedirects h

theorem settle_of_allRedirected {front rest : List Char} {c : Char}
    (h : AllRedirected (front ++ (summaryVariable ++ c :: rest))) (hname : lengthensName c = true) :
    ∃ line after, settle target continuing (front ++ (summaryVariable ++ c :: rest)) =
      .ok (.line line, after) := by
  obtain ⟨hblank, hmark⟩ := visible_of_lengthensName hname
  have hopen : allBlank (stripSummary (front ++ (summaryVariable ++ c :: rest))) = false := by
    rw [stripSummary_eq, allBlank_trimEnd, Bool.eq_false_iff]
    exact fun hall => notMem_of_allBlank hall hblank (mem_withoutRedirects hblank hmark front rest)
  have hnumbered : Numbered (stripSummary (front ++ (summaryVariable ++ c :: rest))) := by
    rw [stripSummary_eq, numbered_trimEnd_iff]
    exact numbered_of_notMem (dollar_notMem_withoutRedirects h)
  rw [← allBlank_rewrite target] at hopen
  exact ⟨_, _, settle_line hopen ((numbered_send target continuing _).mpr hnumbered)⟩

end Refused

theorem isVariable_summaryVariable : Placeholder.IsVariable summaryVariable :=
  Placeholder.IsVariable.intro (by decide) (by decide)

theorem summary_taken_for_redirect (target : Target) (bindings : Bindings) (continuing : Continuing)
    (line : List Char) :
    (stripSummary line = trimEnd line ↔
      ∀ front rest, line = front ++ (summaryVariable ++ rest) → ¬ Redirects front) ∧
    ∀ resolved, isElided (stripComment line) = false →
      Placeholder.resolve bindings (stripComment line) = .ok resolved →
      (∀ front rest, stripComment line = front ++ (summaryVariable ++ rest) → ∃ front' rest',
        Placeholder.resolve bindings front = .ok front' ∧ Placeholder.resolve bindings rest = .ok rest' ∧
          resolved = front' ++ (summaryVariable ++ rest')) ∧
      ((∃ reported, transform target bindings continuing line = .error (.unsupportedExpression reported)) ↔
        HasLooseDollar (stripSummary resolved)) ∧
      (∀ front rest, resolved = front ++ (summaryVariable ++ rest) → ¬ Redirects front →
        HasLooseDollar (stripSummary resolved)) ∧
      (∀ front c rest, resolved = front ++ (summaryVariable ++ c :: rest) → lengthensName c = true →
        AllRedirected resolved →
          ∃ text after, transform target bindings continuing line = .ok (.line text, after)) := by
  refine ⟨stripSummary_eq_trimEnd_iff, ?_⟩
  intro resolved hkept hresolved
  rw [transform_of_resolve hkept hresolved]
  refine ⟨?_, exists_settle_unsupported_iff, ?_, ?_⟩
  · intro front rest hsource
    rw [hsource] at hresolved
    exact isVariable_summaryVariable.resolve_eq_ok_iff.mp hresolved
  · rintro front rest rfl hredirects
    exact hasLooseDollar_of_not_redirects hredirects
  · rintro front c rest rfl hname hall
    exact settle_of_allRedirected hall hname

def listed : List Char := "cat $GITHUB_STEP_SUMMARY_OLD".toList

def written : List Char := "echo hi >> $GITHUB_STEP_SUMMARY_FILE".toList

theorem written_eq : written = "echo hi >> ".toList ++ (summaryVariable ++ "_FILE".toList) := rfl

theorem redirects_written : Redirects "echo hi >> ".toList := ⟨"echo hi >".toList, [' '], by decide, by decide⟩

theorem not_redirects_listed : ¬ Redirects "cat ".toList := by
  rintro ⟨head, gap, heq, -⟩
  have hmem : '>' ∈ "cat ".toList := heq ▸ List.mem_append_right head List.mem_cons_self
  exact absurd hmem (by decide)

theorem place_of_written {front rest : List Char} (h : written = front ++ '$' :: rest) :
    front = "echo hi >> ".toList ∧ rest = summaryName ++ "_FILE".toList := by
  rw [written_eq, summaryVariable_eq, List.cons_append] at h
  obtain ⟨hfront, -, hrest⟩ := (List.append_cons_inj_of_notMem (by decide) (by decide)).mp h
  exact ⟨hfront.symm, hrest.symm⟩

theorem allRedirected_written : AllRedirected written := by
  intro front rest h
  obtain ⟨rfl, rfl⟩ := place_of_written h
  exact ⟨redirects_written, List.prefix_append _ _⟩

theorem taken_of_written :
    (∃ reported, transform .shell Fragment.noBindings false listed = .error (.unsupportedExpression reported)) ∧
      stripSummary written ≠ trimEnd written ∧
      ∃ line after, transform .shell Fragment.noBindings false written = .ok (.line line, after) := by
  obtain ⟨-, hlisted⟩ := summary_taken_for_redirect .shell Fragment.noBindings false listed
  obtain ⟨htrim, hwritten⟩ := summary_taken_for_redirect .shell Fragment.noBindings false written
  have hlisted := hlisted listed (by decide +kernel) (by decide +kernel)
  have hwritten := hwritten written (by decide +kernel) (by decide +kernel)
  refine ⟨?_, ?_, ?_⟩
  · exact hlisted.2.1.mpr (hlisted.2.2.1 "cat ".toList "_OLD".toList rfl not_redirects_listed)
  · exact fun hsame => htrim.mp hsame _ _ written_eq redirects_written
  · exact hwritten.2.2.2 "echo hi >> ".toList '_' "FILE".toList rfl (by decide) allRedirected_written

theorem longer_name_lost :
    (∀ front rest, written = front ++ (summaryVariable ++ rest) → rest.head?.any lengthensName = true) ∧
      stripSummary written = "echo hi_FILE".toList ∧ trimEnd written = written ∧
      transform .shell Fragment.noBindings false written = .ok (.line "echo hi_FILE".toList, false) := by
  refine ⟨fun front rest h => ?_, by decide +kernel⟩
  rw [summaryVariable_eq, List.cons_append] at h
  rw [List.append_cancel_left (place_of_written h).2]
  decide

end WorkflowScript.Line
