import WorkflowScript.Proofs.Fragment.Dispatch
import WorkflowScript.Proofs.Line.States

namespace WorkflowScript.Fragment

open Line Outcome

theorem physicalLines_append (front back : List Char) :
    physicalLines (front ++ '\n' :: back) = physicalLines front ++ physicalLines back := by
  rw [physicalLines, List.splitOn_append_cons_self, List.map_append]
  rfl

variable {target : Target} {bindings : Bindings} {state after : Continuing}
  {raws more : List (List Char)} {emitted : List Emitted} {lines : List String}

section Run

theorem transformLines_cons_of_ok {raw : List Char} {first : Emitted} {next : Continuing}
    (h : Line.transform target bindings state raw = .ok (first, next)) (raws : List (List Char)) :
    transformLines target bindings state (raw :: raws) =
      (transformLines target bindings next raws).map (first.toLines ++ ·) := by
  rw [transformLines, h]
  change (transformLines target bindings next raws >>= fun rest => Except.ok (first.toLines ++ rest)) = _
  cases transformLines target bindings next raws <;> rfl

theorem transformLines_append_of_runs (h : Runs target bindings state raws emitted after) :
    transformLines target bindings state (raws ++ more) =
      (transformLines target bindings after more).map (emitted.flatMap Emitted.toLines ++ ·) := by
  induction h with
  | nil state =>
    rw [List.nil_append]
    cases transformLines target bindings state more <;> rfl
  | @cons state next after raw raws first rest hline hrest ih =>
    rw [List.cons_append, transformLines_cons_of_ok hline, ih, List.flatMap_cons]
    cases transformLines target bindings after more with
    | error e => rfl
    | ok lines => simp only [Except.map, List.append_assoc]

theorem transformLines_append_of_error {e : CompileError}
    (h : transformLines target bindings state raws = .error e) :
    transformLines target bindings state (raws ++ more) = .error e := by
  induction raws generalizing state with
  | nil => cases h
  | cons raw raws ih =>
    rw [transformLines] at h
    rw [List.cons_append, transformLines]
    rcases bind_eq_error_iff.mp h with hline | ⟨⟨first, next⟩, hline, h⟩
    · rw [hline]
      rfl
    · have hrest : transformLines target bindings next raws = .error e := by
        rcases bind_eq_error_iff.mp h with hrest | ⟨rest, -, hok⟩
        · exact hrest
        · cases hok
      refine bind_eq_error_iff.mpr (.inr ⟨_, hline, ?_⟩)
      exact bind_eq_error_iff.mpr (.inl (ih hrest))

theorem Runs.length_eq (h : Runs target bindings state raws emitted after) :
    emitted.length = raws.length := by
  induction h with
  | nil => rfl
  | cons hline hrest ih => rw [List.length_cons, List.length_cons, ih]

theorem length_toLines_le (emitted : Emitted) : emitted.toLines.length ≤ 1 := by
  cases emitted with
  | elided => exact Nat.zero_le 1
  | blank => exact le_rfl
  | line text => exact le_rfl

theorem length_flatMap_toLines_le (emitted : List Emitted) :
    (emitted.flatMap Emitted.toLines).length ≤ emitted.length := by
  induction emitted with
  | nil => exact le_rfl
  | cons first rest ih =>
    have hfirst := length_toLines_le first
    rw [List.flatMap_cons, List.length_append, List.length_cons]
    omega

theorem length_le_of_transform {text : String} (h : transform target bindings text = .ok lines) :
    lines.length ≤ (physicalLines text.toList).length := by
  obtain ⟨emitted, after, hruns, rfl⟩ := transformLines_eq_ok_iff.mp h
  rw [← hruns.length_eq]
  exact length_flatMap_toLines_le emitted

end Run

section State

def leavesOpen (lines : List String) : Bool := (shown lines).getLast?.any goesOn

theorem Runs.after_eq_of_batch (h : Runs .batch bindings false raws emitted after) :
    after = leavesOpen (emitted.flatMap Emitted.toLines) := by
  rw [h.chain.after_eq, leavesOpen, h.shown_eq]
  generalize emitted.filterMap Emitted.text? = lines
  rcases lines.eq_nil_or_concat with rfl | ⟨front, last, rfl⟩
  · rfl
  · simp [openBefore]

theorem Runs.after_eq_of_shell (h : Runs .shell bindings state raws emitted after) : after = state := by
  induction h with
  | nil => rfl
  | @cons state next after raw raws first rest hline hrest ih =>
    rw [ih]
    cases transform_eq_ok_iff.mp hline with
    | elided => rfl
    | blank => rfl
    | line => rfl

end State

/-- The lines of a fragment for batch, and the same behind an open continuation: the first that is not
empty stands under the lines before it. -/
inductive Indented : List String → List String → Prop
  | unchanged {lines : List String} (h : ∀ line ∈ lines, line = "") : Indented lines lines
  | first {gap : List String} {text : List Char} {rest : List String} (h : ∀ line ∈ gap, line = "") :
      Indented (gap ++ .ofList (dispatchWord ++ text) :: rest)
        (gap ++ .ofList (continuationIndent ++ text) :: rest)

section Behind

theorem Indented.append_gap {gap lines lines' : List String} (hgap : ∀ line ∈ gap, line = "")
    (h : Indented lines lines') : Indented (gap ++ lines) (gap ++ lines') := by
  have hboth {others : List String} (hothers : ∀ line ∈ others, line = "") :
      ∀ line ∈ gap ++ others, line = "" := by
    intro line hline
    rcases List.mem_append.mp hline with hline | hline
    · exact hgap line hline
    · exact hothers line hline
  cases h with
  | unchanged h => exact .unchanged (hboth h)
  | first h =>
    rw [← List.append_assoc, ← List.append_assoc]
    exact .first (hboth h)

theorem eq_empty_of_mem_toLines {emitted : Emitted} (h : emitted.text? = none) :
    ∀ line ∈ emitted.toLines, line = "" := by
  cases emitted with
  | elided => simp [Emitted.toLines]
  | blank => simp [Emitted.toLines]
  | line text => cases h

theorem transformLines_behind (bindings : Bindings) (raws : List (List Char)) :
    Alike SameCause Indented (transformLines .batch bindings false raws)
      (transformLines .batch bindings true raws) := by
  induction raws with
  | nil => exact .ok (.unchanged (by simp))
  | cons raw raws ih =>
    cases response .batch bindings raw with
    | silent emitted hnone h =>
      rw [transformLines_cons_of_ok (h false), transformLines_cons_of_ok (h true)]
      exact ih.map fun lines lines' hlines => hlines.append_gap (eq_empty_of_mem_toLines hnone)
    | line text hne h =>
      rw [transformLines_cons_of_ok (h false), transformLines_cons_of_ok (h true)]
      -- both go on in one state, since the text alone decides whether a line goes on
      have hsend (state : Continuing) : send .batch state text =
          (lead state ++ text ++ ending text, goesOn text) := dispatch_eq state hne
      rw [hsend, hsend]
      refine Alike.map (R := Eq) (.of_eq SameCause.same) ?_
      rintro rest _ rfl
      have hfirst : Indented (.ofList (lead false ++ (text ++ ending text)) :: rest)
          (.ofList (lead true ++ (text ++ ending text)) :: rest) :=
        @Indented.first [] (text ++ ending text) rest (by simp)
      simpa only [Emitted.toLines, List.append_assoc, List.singleton_append] using hfirst
    | refused error hsame h =>
      rw [transformLines, h false, transformLines, h true]
      exact .error (hsame false true)

end Behind

def Below (target : Target) (above lines lines' : List String) : Prop :=
  match target with
  | .shell => lines' = lines
  | .batch => if leavesOpen above = true then Indented lines lines' else lines' = lines

theorem transformLines_below {above : List Emitted} (h : Runs target bindings false raws above after)
    (more : List (List Char)) :
    Alike SameCause (Below target (above.flatMap Emitted.toLines))
      (transformLines target bindings false more) (transformLines target bindings after more) := by
  have hsame (h : after = false) : Alike SameCause (fun lines lines' => lines' = lines)
      (transformLines target bindings false more) (transformLines target bindings after more) := by
    rw [h]
    exact (Alike.of_eq SameCause.same).imp fun lines lines' heq => heq.symm
  cases target with
  | shell => exact hsame h.after_eq_of_shell
  | batch =>
    have hafter := h.after_eq_of_batch
    cases hopen : leavesOpen (above.flatMap Emitted.toLines) with
    | false =>
      refine (hsame (hafter.trans hopen)).imp fun lines lines' heq => ?_
      simp only [Below, hopen, Bool.false_eq_true, if_false]
      exact heq
    | true =>
      rw [hafter, hopen]
      refine (transformLines_behind bindings more).imp fun lines lines' hindented => ?_
      simp only [Below, hopen, if_true]
      exact hindented

theorem transform_joined (target : Target) (bindings : Bindings) (front back : String) :
    transform target bindings (front ++ "\n" ++ back) =
      transformLines target bindings false (physicalLines front.toList ++ physicalLines back.toList) := by
  have htext : (front ++ "\n" ++ back).toList = front.toList ++ '\n' :: back.toList := by
    rw [String.toList_append, String.toList_append, List.append_assoc]
    rfl
  rw [transform, htext, physicalLines_append]

theorem transform_below {above : List String} {front : String} (back : String)
    (h : transform target bindings front = .ok above) :
    Alike SameCause (fun lines joined => ∃ lines', joined = above ++ lines' ∧ Below target above lines lines')
      (transform target bindings back) (transform target bindings (front ++ "\n" ++ back)) := by
  obtain ⟨emitted, after, hruns, rfl⟩ := transformLines_eq_ok_iff.mp h
  rw [transform_joined, transformLines_append_of_runs hruns, transform]
  have hbelow := transformLines_below hruns (physicalLines back.toList)
  generalize transformLines target bindings false (physicalLines back.toList) = lines at hbelow ⊢
  generalize transformLines target bindings after (physicalLines back.toList) = lines' at hbelow ⊢
  cases hbelow with
  | ok hbelow => exact .ok ⟨_, rfl, hbelow⟩
  | error hcause => exact .error hcause

theorem transform_distributes (target : Target) (bindings : Bindings) (front back : String) :
    ((∃ joined, transform target bindings (front ++ "\n" ++ back) = .ok joined) ↔
      (∃ above, transform target bindings front = .ok above) ∧
        ∃ lines, transform target bindings back = .ok lines) ∧
    (∀ e, transform target bindings front = .error e →
      transform target bindings (front ++ "\n" ++ back) = .error e) ∧
    (∀ above e, transform target bindings front = .ok above → transform target bindings back = .error e →
      ∃ e', transform target bindings (front ++ "\n" ++ back) = .error e' ∧ SameCause e e') ∧
    (∀ above lines, transform target bindings front = .ok above →
      transform target bindings back = .ok lines →
      ∃ lines', transform target bindings (front ++ "\n" ++ back) = .ok (above ++ lines') ∧
        Below target above lines lines') ∧
    ∀ text lines, transform target bindings text = .ok lines →
      lines.length ≤ (physicalLines text.toList).length := by
  have hfront (e : CompileError) (h : transform target bindings front = .error e) :
      transform target bindings (front ++ "\n" ++ back) = .error e := by
    rw [transform_joined]
    exact transformLines_append_of_error h
  refine ⟨?_, hfront, ?_, ?_, fun text lines h => length_le_of_transform h⟩
  · rcases exists_ok_or_error (transform target bindings front) with ⟨above, habove⟩ | ⟨e, he⟩
    · rw [← (transform_below back habove).ok_iff, habove]
      simp
    · rw [hfront e he, he]
      simp
  · intro above e habove hback
    have halike := transform_below back habove
    rw [hback] at halike
    generalize transform target bindings (front ++ "\n" ++ back) = joined at halike
    cases halike with
    | error hcause => exact ⟨_, rfl, hcause⟩
  · intro above lines habove hback
    have halike := transform_below back habove
    rw [hback] at halike
    generalize transform target bindings (front ++ "\n" ++ back) = joined at halike
    cases halike with
    | ok h =>
      obtain ⟨lines', rfl, hbelow⟩ := h
      exact ⟨lines', rfl, hbelow⟩

end WorkflowScript.Fragment
