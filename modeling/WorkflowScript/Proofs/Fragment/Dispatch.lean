import WorkflowScript.Proofs.Fragment.Run
import WorkflowScript.Proofs.Line.Passes

namespace WorkflowScript

open Text

namespace Line

def goesOn (line : List Char) : Bool := line.getLast? == some continuationMark

def lead (continuing : Continuing) : List Char :=
  if continuing then continuationIndent else dispatchWord

def ending (line : List Char) : List Char := if goesOn line then [] else errorJump

variable {bindings : Bindings} {continuing after : Continuing} {raw line text : List Char}

theorem goesOn_append (h : text ≠ []) (front : List Char) : goesOn (front ++ text) = goesOn text := by
  rw [goesOn, List.getLast?_append_of_ne_nil front h]
  rfl

theorem goesOn_of_jump (h : errorJump <:+ line) : goesOn line = false := by
  obtain ⟨front, rfl⟩ := h
  rw [goesOn_append (by decide)]
  rfl

theorem dispatch_eq (continuing : Continuing) (h : text ≠ []) :
    dispatch continuing text = (lead continuing ++ text ++ ending text, goesOn text) := by
  have hlast : (lead continuing ++ text).getLast? = text.getLast? :=
    List.getLast?_append_of_ne_nil _ h
  change (if (lead continuing ++ text).getLast? = some continuationMark then _ else _) = _
  rw [hlast]
  by_cases hmark : text.getLast? = some continuationMark
  · simp [hmark, ending, goesOn, lead]
  · simp [hmark, ending, goesOn, lead]

theorem goesOn_dispatched (h : text ≠ []) :
    goesOn (lead continuing ++ text ++ ending text) = goesOn text := by
  rw [ending]
  cases hgoes : goesOn text with
  | true => rw [if_pos rfl, List.append_nil, goesOn_append h, hgoes]
  | false =>
    rw [if_neg Bool.false_ne_true]
    exact goesOn_of_jump (List.suffix_append _ _)

structure Dispatched (bindings : Bindings) (continuing : Continuing) (raw line : List Char) : Prop where
  starts : lead continuing <+: line
  ends : (goesOn line = true ∧ ¬ errorJump <:+ line) ∨ (goesOn line = false ∧ errorJump <:+ line)
  text : ∃ text, PassesTo bindings raw text ∧ allBlank text = false ∧
    line = lead continuing ++ text ++ ending line

theorem dispatched_of_becomes (h : Becomes .batch bindings continuing raw (.line line) after) :
    Dispatched bindings continuing raw line ∧ after = goesOn line := by
  generalize hemitted : Emitted.line line = emitted at h
  cases h with
  | elided helided => cases hemitted
  | blank hcomes hblank => cases hemitted
  | @line text hcomes hopen hnumbered =>
    have hne : text ≠ [] := ne_nil_of_allBlank hopen
    have hsent : send .batch continuing text = (lead continuing ++ text ++ ending text, goesOn text) :=
      dispatch_eq continuing hne
    rw [hsent] at hemitted ⊢
    cases hemitted
    have hgoes := @goesOn_dispatched continuing _ hne
    refine ⟨⟨?_, ?_, text, comesTo_iff_passesTo.mp hcomes, hopen, ?_⟩, hgoes.symm⟩
    · rw [List.append_assoc]
      exact List.prefix_append _ _
    · cases hmark : goesOn text with
      | true =>
        refine .inl ⟨hgoes.trans hmark, ?_⟩
        intro hjump
        rw [goesOn_of_jump hjump, hmark] at hgoes
        cases hgoes
      | false =>
        refine .inr ⟨hgoes.trans hmark, ?_⟩
        rw [ending, hmark]
        exact List.suffix_append _ _
    · have hending : ending (lead continuing ++ text ++ ending text) = ending text := by
        rw [ending, hgoes, ending]
      exact (congrArg (lead continuing ++ text ++ ·) hending).symm

end Line

namespace Fragment

open Line

inductive Chain (bindings : Bindings) :
    Continuing → List (List Char) → List (List Char) → Continuing → Prop
  | nil (state : Continuing) : Chain bindings state [] [] state
  | cons {state after : Continuing} {raw line : List Char} {raws lines : List (List Char)}
      (hline : Dispatched bindings state raw line) (hrest : Chain bindings (goesOn line) raws lines after) :
      Chain bindings state (raw :: raws) (line :: lines) after

variable {bindings : Bindings} {state after : Continuing} {raws lines : List (List Char)}

theorem chain_of_runs (h : Runs .batch bindings state raws (lines.map .line) after) :
    Chain bindings state raws lines after := by
  induction lines generalizing state raws with
  | nil =>
    cases h
    exact .nil _
  | cons line lines ih =>
    cases h with
    | @cons state next after raw raws emitted rest hline hrest =>
      obtain ⟨hdispatched, rfl⟩ := dispatched_of_becomes (transform_eq_ok_iff.mp hline)
      exact .cons hdispatched (ih hrest)

theorem Runs.chain {emitted : List Emitted} (h : Runs .batch bindings state raws emitted after) :
    Chain bindings state (Fragment.spoken .batch bindings raws) (emitted.filterMap Emitted.text?) after :=
  chain_of_runs h.spoken

def openBefore (state : Continuing) (lines : List (List Char)) : Nat → Continuing
  | 0 => state
  | i + 1 => (lines[i]?).elim state goesOn

theorem openBefore_cons (state : Continuing) (line : List Char) (lines : List (List Char)) (i : Nat)
    (hi : i ≤ lines.length) :
    openBefore state (line :: lines) (i + 1) = openBefore (goesOn line) lines i := by
  cases i with
  | zero => rfl
  | succ i =>
    have hsome : lines[i]? = some lines[i] := List.getElem?_eq_getElem hi
    rw [openBefore, openBefore, List.getElem?_cons_succ, hsome]
    rfl

theorem Chain.dispatched (h : Chain bindings state raws lines after) {i : Nat} {line : List Char}
    (hi : lines[i]? = some line) :
    ∃ raw, raws[i]? = some raw ∧ Dispatched bindings (openBefore state lines i) raw line := by
  induction h generalizing i with
  | nil => cases hi
  | @cons state after raw first raws lines hline hrest ih =>
    cases i with
    | zero =>
      cases hi
      exact ⟨raw, rfl, hline⟩
    | succ i =>
      rw [List.getElem?_cons_succ] at hi
      have hlt : i < lines.length := (List.getElem?_eq_some_iff.mp hi).1
      obtain ⟨source, hsource, hdispatched⟩ := ih hi
      refine ⟨source, hsource, ?_⟩
      rw [openBefore_cons state first lines i hlt.le]
      exact hdispatched

theorem Chain.length_eq (h : Chain bindings state raws lines after) : raws.length = lines.length := by
  induction h with
  | nil => rfl
  | cons hline hrest ih => rw [List.length_cons, List.length_cons, ih]

theorem Chain.after_eq (h : Chain bindings state raws lines after) :
    after = openBefore state lines lines.length := by
  induction h with
  | nil => rfl
  | @cons state after raw first raws lines hline hrest ih =>
    rw [List.length_cons, openBefore_cons state first lines lines.length le_rfl, ih]

theorem batch_lines_dispatched {text : String} {lines : List String}
    (h : transform .batch bindings text = .ok lines) :
    ∃ emitted after, Runs .batch bindings false (physicalLines text.toList) emitted after ∧
      lines = emitted.flatMap Emitted.toLines ∧
      (spoken .batch bindings (physicalLines text.toList)).length = (shown lines).length ∧
      (∀ i line, (shown lines)[i]? = some line →
        ∃ raw, (spoken .batch bindings (physicalLines text.toList))[i]? = some raw ∧
          Dispatched bindings (openBefore false (shown lines) i) raw line) ∧
      (after = true ↔ ∃ last, (shown lines).getLast? = some last ∧ goesOn last = true) ∧
      ∀ raws, spoken .batch bindings raws = spoken .batch bindings (physicalLines text.toList) →
        ∃ others, Runs .batch bindings false raws others after ∧
          shown (others.flatMap Emitted.toLines) = shown lines := by
  obtain ⟨emitted, after, hruns, rfl⟩ := transformLines_eq_ok_iff.mp h
  have hchain := hruns.chain
  rw [hruns.shown_eq]
  refine ⟨emitted, after, hruns, rfl, hchain.length_eq, fun i line hi => hchain.dispatched hi, ?_, ?_⟩
  · rw [hchain.after_eq]
    generalize emitted.filterMap Emitted.text? = lines
    rcases lines.eq_nil_or_concat with rfl | ⟨front, last, rfl⟩
    · simp [openBefore]
    · simp [openBefore]
  · intro raws hraws
    have hspoken := hruns.spoken
    rw [← hraws] at hspoken
    obtain ⟨others, hothers, heq⟩ := hspoken.of_spoken
    refine ⟨others, hothers, ?_⟩
    rw [hothers.shown_eq, heq, List.filterMap_map]
    exact List.filterMap_some

def making : Bindings := ⟨.ofList [("goal", .ofDefault "lib tests")], .none⟩

def makeText : String :=
  "make $\x7b\x7b inputs.goal \x7d\x7d $1 \\\n# note\n>> $GITHUB_STEP_SUMMARY\n  all # targets\nsleep 5"

def makeLines : List String :=
  ["CALL make \"lib tests\" %1 ^", "", "       all  || CALL :ERROR",
    "CALL TIMEOUT /T 5 /NOBREAK >nul  || CALL :ERROR"]

theorem dispatched_of_make : transform .batch making makeText = .ok makeLines ∧
    (spoken .batch making (physicalLines makeText.toList)).length = 3 ∧
    Dispatched making false "make $\x7b\x7b inputs.goal \x7d\x7d $1 \\".toList
      "CALL make \"lib tests\" %1 ^".toList ∧
    Dispatched making true "  all # targets".toList "       all  || CALL :ERROR".toList ∧
    ∃ emitted, Runs .batch making false (physicalLines makeText.toList) emitted false := by
  have hlines : transform .batch making makeText = .ok makeLines := by decide +kernel
  obtain ⟨emitted, after, hruns, -, hlength, hdispatched, hafter, -⟩ := batch_lines_dispatched hlines
  have hspoken : spoken .batch making (physicalLines makeText.toList) =
      ["make $\x7b\x7b inputs.goal \x7d\x7d $1 \\".toList, "  all # targets".toList, "sleep 5".toList] := by
    decide +kernel
  rw [hspoken] at hdispatched
  refine ⟨hlines, hlength, ?_, ?_, emitted, ?_⟩
  · obtain ⟨raw, hraw, hfirst⟩ := hdispatched 0 _ rfl
    cases hraw
    exact hfirst
  · obtain ⟨raw, hraw, hsecond⟩ := hdispatched 1 _ rfl
    cases hraw
    exact hsecond
  · cases after with
    | false => exact hruns
    | true =>
      obtain ⟨last, hlast, hgoes⟩ := hafter.mp rfl
      cases hlast
      cases hgoes

end Fragment

end WorkflowScript
