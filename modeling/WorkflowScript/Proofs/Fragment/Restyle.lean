import WorkflowScript.Proofs.Fragment.Append
import WorkflowScript.Proofs.Line.Source

namespace WorkflowScript.Fragment

open Line Text Outcome

inductive Restyled : List (List Char) → List (List Char) → Prop
  | nil : Restyled [] []
  | line {line line' : List Char} {lines lines' : List (List Char)} (hsame : trimEnd line = trimEnd line')
      (hrest : Restyled lines lines') : Restyled (line :: lines) (line' :: lines')
  | insert {line : List Char} {lines lines' : List (List Char)} (hcomment : isElided line = true)
      (hrest : Restyled lines lines') : Restyled lines (line :: lines')

section Ending

def withoutReturn (line : List Char) : List Char :=
  if line.getLast? = some '\r' then line.dropLast else line

theorem physicalLines_eq (text : List Char) :
    physicalLines text = (text.splitOn '\n').map withoutReturn := rfl

theorem withoutReturn_cases (line : List Char) :
    withoutReturn line = line ∨ line = withoutReturn line ++ ['\r'] := by
  rw [withoutReturn]
  split
  · next hreturn =>
    obtain ⟨front, rfl⟩ := List.getLast?_eq_some_iff.mp hreturn
    right
    rw [List.dropLast_concat]
  · exact .inl rfl

theorem trimEnd_withoutReturn (line : List Char) : trimEnd (withoutReturn line) = trimEnd line := by
  rcases withoutReturn_cases line with heq | heq
  · rw [heq]
  · calc trimEnd (withoutReturn line) = trimEnd (withoutReturn line ++ ['\r']) :=
          (trimEnd_append_of_blank (by decide) _).symm
      _ = trimEnd line := by rw [← heq]

theorem lineFeed_notMem_withoutReturn {line : List Char} (h : '\n' ∉ line) :
    '\n' ∉ withoutReturn line := by
  rcases withoutReturn_cases line with heq | heq
  · rwa [heq]
  · rw [heq] at h
    exact fun hmem => h (List.mem_append_left _ hmem)

theorem transform_withoutReturn {line : List Char} (h : '\n' ∉ line) (target : Target) (bindings : Bindings)
    (state : Continuing) : Line.transform target bindings state (withoutReturn line) =
      Line.transform target bindings state line :=
  transform_congr_trimEnd (lineFeed_notMem_withoutReturn h) h (trimEnd_withoutReturn line) target bindings
    state

theorem transformLines_withoutReturn {lines : List (List Char)} (h : ∀ line ∈ lines, '\n' ∉ line)
    (target : Target) (bindings : Bindings) (state : Continuing) :
    transformLines target bindings state (lines.map withoutReturn) =
      transformLines target bindings state lines := by
  induction lines generalizing state with
  | nil => rfl
  | cons line lines ih =>
    obtain ⟨hline, hlines⟩ := List.forall_mem_cons.mp h
    rw [List.map_cons, transformLines, transformLines, transform_withoutReturn hline]
    simp only [ih hlines]

theorem lineFeed_notMem_of_mem_splitOn {text line : List Char} (h : line ∈ text.splitOn '\n') :
    '\n' ∉ line :=
  (of_mem_splitOn h).1

theorem transform_eq_splitOn (target : Target) (bindings : Bindings) (text : String) :
    transform target bindings text = transformLines target bindings false (text.toList.splitOn '\n') := by
  rw [transform, physicalLines_eq]
  exact transformLines_withoutReturn (fun line hline => lineFeed_notMem_of_mem_splitOn hline) target bindings
    false

end Ending

section Layout

variable {target : Target} {bindings : Bindings} {lines lines' : List (List Char)}

theorem transformLines_restyled (h : Restyled lines lines') (hlines : ∀ line ∈ lines, '\n' ∉ line)
    (hlines' : ∀ line ∈ lines', '\n' ∉ line) (state : Continuing) :
    transformLines target bindings state lines' = transformLines target bindings state lines := by
  induction h generalizing state with
  | nil => rfl
  | @line line line' lines lines' hsame hrest ih =>
    obtain ⟨hline, hlines⟩ := List.forall_mem_cons.mp hlines
    obtain ⟨hline', hlines'⟩ := List.forall_mem_cons.mp hlines'
    rw [transformLines, transformLines, transform_congr_trimEnd hline hline' hsame]
    simp only [ih hlines hlines']
  | @insert line lines lines' hcomment hrest ih =>
    obtain ⟨hline, hlines'⟩ := List.forall_mem_cons.mp hlines'
    rw [transformLines_cons_of_ok (transform_of_isElided hcomment hline target bindings state),
      ih hlines hlines']
    cases transformLines target bindings state lines <;> rfl

def withReturns (text : List Char) : List Char :=
  text.flatMap fun c => if c = '\n' then ['\r', '\n'] else [c]

theorem forall₂_withReturns (text : List Char) :
    List.Forall₂ (fun line line' => trimEnd line = trimEnd line') (text.splitOn '\n')
      ((withReturns text).splitOn '\n') := by
  induction text with
  | nil => exact .cons rfl .nil
  | cons c text ih =>
    by_cases hc : c = '\n'
    · subst hc
      have htext : withReturns ('\n' :: text) = ['\r'] ++ '\n' :: withReturns text := rfl
      have hfirst : ('\n' :: text).splitOn '\n' = [] :: text.splitOn '\n' :=
        List.splitOn_append_cons_self [] text
      rw [htext, List.splitOn_append_cons_self, hfirst]
      exact .cons rfl ih
    · have htext : withReturns (c :: text) = c :: withReturns text := by
        simp [withReturns, hc]
      have hne : ¬ (c == '\n') = true := by simpa using hc
      rw [htext, List.splitOn_cons_eq_if_modifyHead, if_neg hne, List.splitOn_cons_eq_if_modifyHead, if_neg hne]
      -- the first line grows by a character at its front, which trimming its end does not see
      generalize text.splitOn '\n' = lines at ih ⊢
      generalize (withReturns text).splitOn '\n' = lines' at ih ⊢
      cases ih with
      | nil => exact .nil
      | @cons line line' lines lines' hsame hrest =>
        refine .cons ?_ hrest
        rw [trimEnd, trimEnd, hsame]

theorem Restyled.of_forall₂ (h : List.Forall₂ (fun line line' => trimEnd line = trimEnd line') lines lines') :
    Restyled lines lines' := by
  induction h with
  | nil => exact .nil
  | cons hsame hrest ih => exact .line hsame ih

end Layout

theorem transform_restyled (target : Target) (bindings : Bindings) (text : String) :
    transform target bindings (.ofList (withReturns text.toList)) = transform target bindings text ∧
    ∀ text' : String, Restyled (text.toList.splitOn '\n') (text'.toList.splitOn '\n') →
      transform target bindings text' = transform target bindings text := by
  have hlayout (text' : String) (h : Restyled (text.toList.splitOn '\n') (text'.toList.splitOn '\n')) :
      transform target bindings text' = transform target bindings text := by
    rw [transform_eq_splitOn, transform_eq_splitOn]
    exact transformLines_restyled h (fun line hline => lineFeed_notMem_of_mem_splitOn hline)
      (fun line hline => lineFeed_notMem_of_mem_splitOn hline) false
  refine ⟨hlayout _ ?_, hlayout⟩
  rw [String.toList_ofList]
  exact .of_forall₂ (forall₂_withReturns text.toList)

def plainText : String := "make \\\n  all # now\necho $HOME"

def spacedText : String := "\t# build\nmake \\ \r\n\n  # all of it\n  all # now\t\necho $HOME\u2003\n"

theorem restyled_spaced :
    Restyled (plainText.toList.splitOn '\n') (spacedText.toList.splitOn '\n') ∧
    transform .batch noBindings spacedText = transform .batch noBindings plainText ∧
    transform .batch noBindings plainText =
      .error (.unsupportedExpression "CALL echo $HOME  || CALL :ERROR") := by
  have hlayout : Restyled (plainText.toList.splitOn '\n') (spacedText.toList.splitOn '\n') := by
    have hplain : plainText.toList.splitOn '\n' =
        ["make \\".toList, "  all # now".toList, "echo $HOME".toList] := by decide
    have hspaced : spacedText.toList.splitOn '\n' =
        ["\t# build".toList, "make \\ \r".toList, [], "  # all of it".toList, "  all # now\t".toList,
          "echo $HOME\u2003".toList, []] := by decide
    rw [hplain, hspaced]
    refine .insert (by decide) (.line (by decide) (.insert (by decide) (.insert (by decide) ?_)))
    exact .line (by decide) (.line (by decide) (.insert (by decide) .nil))
  exact ⟨hlayout, (transform_restyled .batch noBindings plainText).2 spacedText hlayout, by decide +kernel⟩

end WorkflowScript.Fragment
