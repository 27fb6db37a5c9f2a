import WorkflowScript.Proofs.Fragment.Dispatch
import WorkflowScript.Proofs.Line.Redirect
import WorkflowScript.Proofs.Template.Substitution

namespace WorkflowScript.Line

open Text Outcome

inductive EndsOpen : List Char → Prop
  | mark (head : List Char) : EndsOpen (head ++ [continuationMark])
  | backslash {head : List Char} (h : head.getLast? ≠ some '\\') : EndsOpen (head ++ ['\\'])

section Ends

variable {head line : List Char} {c : Char}

theorem endsOpen_concat_iff : EndsOpen (head ++ [c]) ↔
    c = continuationMark ∨ (c = '\\' ∧ head.getLast? ≠ some '\\') := by
  constructor
  · generalize htext : head ++ [c] = text
    intro h
    cases h with
    | mark front => exact .inl (List.singleton_inj.mp (List.append_inj' htext rfl).2)
    | @backslash front h =>
      obtain ⟨rfl, hc⟩ := List.append_inj' htext rfl
      exact .inr ⟨List.singleton_inj.mp hc, h⟩
  · rintro (rfl | ⟨rfl, h⟩)
    · exact .mark head
    · exact .backslash h

theorem not_endsOpen_nil : ¬ EndsOpen [] := by
  generalize htext : ([] : List Char) = text
  intro h
  cases h with
  | mark front => simp at htext
  | backslash h => simp at htext

theorem getLast?_of_endsOpen (h : EndsOpen line) :
    line.getLast? = some continuationMark ∨ line.getLast? = some '\\' := by
  cases h with
  | mark front => exact .inl (List.getLast?_concat)
  | backslash h => exact .inr (List.getLast?_concat)

end Ends

section Backslash

variable {head : List Char} {c : Char}

theorem goesOn_concat : goesOn (head ++ [c]) = true ↔ c = continuationMark := by
  rw [goesOn, List.getLast?_concat, beq_iff_eq, Option.some.injEq]

theorem goesOn_rewriteBackslash (line : List Char) :
    goesOn (rewriteBackslash line) = true ↔ EndsOpen line := by
  rcases line.eq_nil_or_concat with rfl | ⟨head, c, rfl⟩
  · exact iff_of_false (by decide) not_endsOpen_nil
  · rw [List.concat_eq_append, endsOpen_concat_iff]
    by_cases hc : c = '\\'
    · subst hc
      by_cases hpair : head.getLast? = some '\\'
      · obtain ⟨front, rfl⟩ := List.getLast?_eq_some_iff.mp hpair
        rw [List.append_assoc, List.singleton_append, rewriteBackslash_pair, List.append_cons,
          goesOn_concat]
        simp [continuationMark]
      · rw [rewriteBackslash_single hpair, goesOn_concat]
        simp [hpair]
    · rw [rewriteBackslash_concat_of_ne hc, goesOn_concat]
      simp [hc]

end Backslash

section Positional

theorem getLast?_rewritePositional (line : List Char) :
    (rewritePositional line).getLast? = line.getLast? := by
  induction line using positional_induction with
  | nil => rw [rewritePositional_nil]
  | number d line hd ih =>
    rw [rewritePositional_number hd, List.getLast?_cons_cons, List.getLast?_cons_cons,
      List.getLast?_cons, List.getLast?_cons, ih]
  | plain c line h ih => rw [rewritePositional_plain h, List.getLast?_cons, List.getLast?_cons, ih]

theorem rewritePositional_concat {c : Char} (hdigit : c.isDigit = false) (hdollar : c ≠ '$')
    (line : List Char) :
    rewritePositional (line ++ [c]) = rewritePositional line ++ [c] := by
  induction line using positional_induction with
  | nil =>
    have hfree : '$' ∉ [c] := by simpa using hdollar.symm
    rw [rewritePositional_nil, List.nil_append, rewritePositional_of_notMem hfree]
  | number d line hd ih =>
    rw [List.cons_append, List.cons_append, rewritePositional_number hd, rewritePositional_number hd, ih]
    rfl
  | plain d line h ih =>
    have hstart : d = '$' → startsWithDigit (line ++ [c]) = false := by
      intro hd
      cases line with
      | nil => exact hdigit
      | cons e line => exact h hd
    rw [List.cons_append, rewritePositional_plain hstart, rewritePositional_plain h, ih, List.cons_append]

theorem endsOpen_rewritePositional (line : List Char) :
    EndsOpen (rewritePositional line) ↔ EndsOpen line := by
  rcases line.eq_nil_or_concat with rfl | ⟨head, c, rfl⟩
  · rw [rewritePositional_nil]
  · rw [List.concat_eq_append]
    by_cases hc : c = continuationMark ∨ c = '\\'
    · have hplain : c.isDigit = false ∧ c ≠ '$' := by rcases hc with rfl | rfl <;> decide
      rw [rewritePositional_concat hplain.1 hplain.2, endsOpen_concat_iff, endsOpen_concat_iff,
        getLast?_rewritePositional]
    · refine iff_of_false (fun h => hc ?_) fun h => hc ?_
      · simpa [getLast?_rewritePositional] using getLast?_of_endsOpen h
      · simpa using getLast?_of_endsOpen h

end Positional

theorem goesOn_rewriteSleep (line : List Char) : goesOn (rewriteSleep .batch line) = goesOn line := by
  rw [rewriteSleep]
  cases h : sleepDigits? line with
  | none => rfl
  | some digits =>
    have hline : goesOn line = false := by
      rw [goesOn, beq_eq_false_iff_ne]
      intro hlast
      exact notMem_of_sleepDigits? h (by unfold isPauseChar; decide) (List.mem_of_getLast? hlast)
    have htail : " /NOBREAK >nul".toList ≠ [] := by decide
    rw [hline]
    exact goesOn_append htail _

theorem goesOn_rewrite (resolved : List Char) :
    goesOn (rewrite .batch resolved) = true ↔ EndsOpen (stripSummary resolved) := by
  change goesOn (rewriteSleep .batch (rewriteBackslash (rewritePositional _))) = true ↔ _
  rw [goesOn_rewriteSleep, goesOn_rewriteBackslash, endsOpen_rewritePositional]

section Source

variable {bindings : Bindings} {source resolved : List Char}

def EndsInValue (bindings : Bindings) (source : List Char) : Prop :=
  ∃ site : Placeholder.Site source, site.after = [] ∧ ∃ value,
    Placeholder.Denotes bindings site.placeholder value ∧
      (allBlank value.toList = true ∨ lastVisible value.toList = some '\\' ∨
        lastVisible value.toList = some continuationMark)

theorem getLast?_of_endsInValue (h : EndsInValue bindings source) : source.getLast? = some '\x7d' := by
  obtain ⟨⟨before, o, after, htext, hwritten⟩, rfl, -⟩ := h
  obtain ⟨front, hwhole⟩ : Placeholder.closing <:+ o.whole := by
    cases hwritten
    simp only [← List.append_assoc]
    exact List.suffix_append _ _
  rw [htext, ← hwhole, List.append_nil, ← List.append_assoc]
  exact List.getLast?_append_of_ne_nil _ (by decide)

theorem lastVisible_of_resolve (h : Placeholder.resolve bindings source = .ok resolved)
    (hsource : source ≠ []) (htrim : trimEnd source = source) :
    lastVisible resolved = source.getLast? ∨
      ∃ site : Placeholder.Site source, site.after = [] ∧ ∃ value,
        Placeholder.Denotes bindings site.placeholder value ∧
          (allBlank value.toList = true ∨ lastVisible resolved = lastVisible value.toList) := by
  obtain ⟨hbound, rfl⟩ := Placeholder.resolve_eq_ok_iff.mp h
  have hpieces := source_pieces Placeholder.recognise_faithful source
  rw [Placeholder.substitute, replaceAll]
  rcases (pieces Placeholder.recognise source).eq_nil_or_concat with hnil | ⟨front, piece, hconcat⟩
  · rw [hnil] at hpieces
    exact absurd hpieces.symm hsource
  · rw [List.concat_eq_append] at hconcat
    rw [hconcat, List.flatMap_append, List.flatMap_singleton] at hpieces ⊢
    cases piece with
    | plain c =>
      left
      rw [← hpieces] at htrim
      have hc : isBlank c = false := isBlank_of_trimEnd_eq htrim
      change lastVisible (_ ++ [c]) = _
      rw [lastVisible_concat hc, ← hpieces]
      exact List.getLast?_concat.symm
    | occurrence o =>
      right
      obtain ⟨site, -, rfl, hafter⟩ := Placeholder.exists_site_of_split hconcat
      have hmem : site.placeholder ∈ occurrences Placeholder.recognise source :=
        List.mem_filterMap.mpr ⟨.occurrence site.placeholder, by simp [hconcat], rfl⟩
      obtain ⟨value, hvalue⟩ := Placeholder.bound_iff.mp (hbound _ hmem)
      refine ⟨site, hafter, value, hvalue, ?_⟩
      rw [Piece.substitute, Placeholder.valueOf_of_denotes hvalue]
      cases hblank : allBlank value.toList with
      | true => exact .inl rfl
      | false => exact .inr (lastVisible_append_open hblank _)

theorem source_of_endsOpen (h : Placeholder.resolve bindings source = .ok resolved)
    (hsource : source ≠ []) (htrim : trimEnd source = source)
    (hbackslash : source.getLast? ≠ some '\\') (hmark : source.getLast? ≠ some continuationMark)
    (hopen : EndsOpen (stripSummary resolved)) :
    EndsInRedirect resolved ∨ EndsInValue bindings source := by
  rcases getLast?_stripSummary resolved with hredirect | hlast
  · exact .inl hredirect
  · right
    have hvisible := getLast?_of_endsOpen hopen
    rw [hlast] at hvisible
    rcases lastVisible_of_resolve h hsource htrim with
      hsame | ⟨site, hafter, value, hvalue, hblank | hsame⟩
    · rw [hsame] at hvisible
      exact hvisible.elim (absurd · hmark) (absurd · hbackslash)
    · exact ⟨site, hafter, value, hvalue, .inl hblank⟩
    · rw [hsame] at hvisible
      exact ⟨site, hafter, value, hvalue, .inr hvisible.symm⟩

end Source

theorem stripComment_ne_nil {raw : List Char} (h : isElided (stripComment raw) = false) :
    stripComment raw ≠ [] := by
  intro hnil
  rw [hnil] at h
  cases h

theorem dispatched_ends (continuing : Continuing) {text : List Char} (h : allBlank text = false) :
    let sent := send .batch continuing text
    (sent.2 = true ∧ sent.1.getLast? = some continuationMark ∧ goesOn text = true) ∨
      (sent.2 = false ∧ errorJump <:+ sent.1 ∧ goesOn text = false) := by
  have hsent := dispatch_eq continuing (ne_nil_of_allBlank h)
  have hgoes := @goesOn_dispatched continuing _ (ne_nil_of_allBlank h)
  simp only [send, hsent]
  cases hmark : goesOn text with
  | true => exact .inl ⟨rfl, eq_of_beq (hgoes.trans hmark), rfl⟩
  | false =>
    refine .inr ⟨rfl, ?_, rfl⟩
    rw [ending, hmark]
    exact List.suffix_append _ _

theorem continuation_decided {bindings : Bindings} {continuing after : Continuing} {raw line : List Char}
    (h : transform .batch bindings continuing raw = .ok (.line line, after)) :
    ∃ resolved, Placeholder.resolve bindings (stripComment raw) = .ok resolved ∧
      ((after = true ∧ line.getLast? = some continuationMark ∧ EndsOpen (stripSummary resolved)) ∨
        (after = false ∧ errorJump <:+ line ∧ ¬ EndsOpen (stripSummary resolved))) ∧
      ((stripComment raw).getLast? ≠ some '\\' →
        (stripComment raw).getLast? ≠ some continuationMark →
        ¬ EndsInRedirect resolved → ¬ EndsInValue bindings (stripComment raw) →
          errorJump <:+ line ∧ after = false) := by
  have hbecomes := transform_eq_ok_iff.mp h
  generalize hemitted : Emitted.line line = emitted at hbecomes
  cases hbecomes with
  | elided helided => cases hemitted
  | blank hcomes hblank => cases hemitted
  | @line text hcomes hopen hnumbered =>
    cases hemitted
    obtain ⟨hkept, resolved, hresolved, rfl⟩ := hcomes
    have hends := dispatched_ends continuing hopen
    simp only [← Bool.not_eq_true (goesOn _), goesOn_rewrite] at hends
    refine ⟨resolved, hresolved, hends, ?_⟩
    intro hbackslash hmark hredirect hvalue
    rcases hends with ⟨-, -, hopen⟩ | ⟨hafter, hjump, -⟩
    · have hsource := source_of_endsOpen hresolved (stripComment_ne_nil hkept) (trimEnd_trimEnd _)
        hbackslash hmark hopen
      exact absurd hsource (not_or.mpr ⟨hredirect, hvalue⟩)
    · exact ⟨hjump, hafter⟩

def backslashed : Bindings := ⟨.ofList [("dir", .ofDefault "C:\\src\\")], .none⟩

def inside : List Char := "copy $\x7b\x7b inputs.dir \x7d\x7d out # all".toList

def copied : List Char := "     copy C:\\src\\ out  || CALL :ERROR".toList

theorem continuation_of_inside :
    transform .batch backslashed true inside = .ok (.line copied, false) ∧
      ∃ resolved, Placeholder.resolve backslashed (stripComment inside) = .ok resolved ∧
        ¬ EndsInRedirect resolved ∧ ¬ EndsInValue backslashed (stripComment inside) ∧
          ¬ EndsOpen (stripSummary resolved) ∧ errorJump <:+ copied := by
  have h : transform .batch backslashed true inside = .ok (.line copied, false) := by decide +kernel
  obtain ⟨resolved, hresolved, hends, hguarded⟩ := continuation_decided h
  have hlast : (stripComment inside).getLast? = some 't' := by decide +kernel
  have hredirect : ¬ EndsInRedirect resolved := by
    intro hredirect
    have hvisible : (Placeholder.resolve backslashed (stripComment inside)).map lastVisible =
        .ok (some 't') := by decide +kernel
    rw [hresolved, Except.map, lastVisible_of_endsInRedirect hredirect] at hvisible
    exact absurd hvisible (by decide)
  have hvalue : ¬ EndsInValue backslashed (stripComment inside) := by
    intro hvalue
    rw [getLast?_of_endsInValue hvalue] at hlast
    exact absurd hlast (by decide)
  have hopen : ¬ EndsOpen (stripSummary resolved) := by
    rcases hends with ⟨hafter, -⟩ | ⟨-, -, hopen⟩
    · cases hafter
    · exact hopen
  have hjump := hguarded (by rw [hlast]; decide) (by rw [hlast]; decide) hredirect hvalue
  exact ⟨h, resolved, hresolved, hredirect, hvalue, hopen, hjump.1⟩

theorem value_left_open :
    (transform .batch backslashed false "cd $\x7b\x7b inputs.dir \x7d\x7d".toList =
        .ok (.line "CALL cd C:\\src^".toList, true) ∧
      (stripComment "cd $\x7b\x7b inputs.dir \x7d\x7d".toList).getLast? = some '\x7d') ∧
    transform .batch backslashed false "echo a \\ >> $GITHUB_STEP_SUMMARY".toList =
        .ok (.line "CALL echo a ^".toList, true) ∧
      (stripComment "echo a \\ >> $GITHUB_STEP_SUMMARY".toList).getLast? = some 'Y' := by
  decide +kernel

end WorkflowScript.Line
