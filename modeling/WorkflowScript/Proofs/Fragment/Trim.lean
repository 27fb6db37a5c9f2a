import WorkflowScript.Proofs.Fragment.Block

namespace WorkflowScript.Fragment

open Text

section Join

def joined (lines : List String) : List Char := ("\n".intercalate lines).toList

variable {front back : List String}

theorem joined_singleton (line : String) : joined [line] = line.toList := by
  rw [joined, String.intercalate_singleton]

theorem joined_append (hfront : front ≠ []) (hback : back ≠ []) :
    joined (front ++ back) = joined front ++ '\n' :: joined back := by
  rw [joined, String.intercalate_append_of_ne_nil hfront hback, String.toList_append, String.toList_append,
    List.append_assoc]
  rfl

theorem joined_cons (first : String) (hback : back ≠ []) :
    joined (first :: back) = first.toList ++ '\n' :: joined back := by
  rw [← List.singleton_append, joined_append (List.cons_ne_nil _ _) hback, joined_singleton]

theorem allBlank_joined (h : ∀ line ∈ front, isBlankLine line = true) : allBlank (joined front) = true := by
  induction front with
  | nil => rfl
  | cons first lines ih =>
    obtain ⟨hfirst, hlines⟩ := List.forall_mem_cons.mp h
    have hfirst : allBlank first.toList = true := hfirst
    by_cases hnil : lines = []
    · rw [hnil, joined_singleton]
      exact hfirst
    · rw [joined_cons first hnil, allBlank_append, hfirst]
      exact ih hlines

theorem allBlank_joined_concat {last : String} (h : isBlankLine last = false) (front : List String) :
    allBlank (joined (front ++ [last])) = false := by
  by_cases hnil : front = []
  · rw [hnil, List.nil_append, joined_singleton]
    exact h
  · rw [joined_append hnil (List.cons_ne_nil _ _), joined_singleton, allBlank_append]
    have hlast : allBlank ('\n' :: last.toList) = false := h
    rw [hlast, Bool.and_false]

theorem trim_joined_before (h : ∀ line ∈ front, isBlankLine line = true) (hback : back ≠ []) :
    trim (joined (front ++ back)) = trim (joined back) := by
  by_cases hnil : front = []
  · rw [hnil, List.nil_append]
  · have hgap : allBlank (joined front ++ ['\n']) = true := by
      rw [allBlank_append, allBlank_joined h]
      rfl
    rw [joined_append hnil hback, List.append_cons, trim, trimStart_append hgap, trim]

theorem trim_joined_behind (h : ∀ line ∈ back, isBlankLine line = true) (hfront : front ≠ []) :
    trim (joined (front ++ back)) = trim (joined front) := by
  by_cases hnil : back = []
  · rw [hnil, List.append_nil]
  · have hgap : allBlank ('\n' :: joined back) = true := allBlank_joined h
    rw [joined_append hfront hnil, trim_append_blank hgap]

end Join

section Frame

inductive Framed : List String → Prop
  | single {line : String} (h : isBlankLine line = false) : Framed [line]
  | ends {first last : String} (middle : List String) (hfirst : isBlankLine first = false)
      (hlast : isBlankLine last = false) : Framed (first :: (middle ++ [last]))

variable {block : List String}

theorem Framed.ne_nil (h : Framed block) : block ≠ [] := by
  cases h <;> exact List.cons_ne_nil _ _

theorem framed_of_ends (hne : block ≠ []) (hhead : ∀ first, block.head? = some first → isBlankLine first = false)
    (hlast : ∀ last, block.getLast? = some last → isBlankLine last = false) : Framed block := by
  obtain ⟨first, rest, rfl⟩ := List.exists_cons_of_ne_nil hne
  have hfirst := hhead first rfl
  rcases rest.eq_nil_or_concat with rfl | ⟨middle, last, rfl⟩
  · exact .single hfirst
  · rw [List.concat_eq_append] at hlast ⊢
    refine .ends middle hfirst (hlast last ?_)
    rw [← List.cons_append, List.getLast?_concat]

theorem framed_stripBlank {lines : List String} (h : stripBlank lines ≠ []) : Framed (stripBlank lines) :=
  framed_of_ends h (fun _ => head?_stripBlank) fun _ => getLast?_dropBlankEnd

theorem exists_eq_dropBlankEnd_append (lines : List String) :
    ∃ behind, lines = dropBlankEnd lines ++ behind ∧ ∀ line ∈ behind, isBlankLine line = true := by
  induction lines with
  | nil => exact ⟨[], rfl, by simp⟩
  | cons first lines ih =>
    obtain ⟨behind, hlines, hbehind⟩ := ih
    rw [dropBlankEnd]
    cases hkept : dropBlankEnd lines with
    | nil =>
      rw [hkept, List.nil_append] at hlines
      subst hlines
      change ∃ after, _ = (if isBlankLine first = true then [] else [first]) ++ after ∧ _
      split
      · next hblank => exact ⟨first :: lines, rfl, List.forall_mem_cons.mpr ⟨hblank, hbehind⟩⟩
      · exact ⟨lines, rfl, hbehind⟩
    | cons next kept =>
      rw [hkept] at hlines
      exact ⟨behind, congrArg _ hlines, hbehind⟩

theorem exists_eq_append_stripBlank (lines : List String) :
    ∃ before behind, lines = before ++ (stripBlank lines ++ behind) ∧
      (∀ line ∈ before, isBlankLine line = true) ∧ ∀ line ∈ behind, isBlankLine line = true := by
  obtain ⟨behind, hbehind, hblank⟩ := exists_eq_dropBlankEnd_append (lines.dropWhile isBlankLine)
  refine ⟨lines.takeWhile isBlankLine, behind, ?_, fun line hline => List.mem_takeWhile_imp hline, hblank⟩
  rw [stripBlank, ← hbehind, List.takeWhile_append_dropWhile]

theorem stripBlank_eq_nil_iff {lines : List String} :
    stripBlank lines = [] ↔ ∀ line ∈ lines, isBlankLine line = true := by
  constructor
  · intro h
    obtain ⟨before, behind, hlines, hbefore, hbehind⟩ := exists_eq_append_stripBlank lines
    rw [hlines, h, List.nil_append]
    exact List.forall_mem_append.mpr ⟨hbefore, hbehind⟩
  · intro h
    by_contra hne
    obtain ⟨first, rest, hblock⟩ := List.exists_cons_of_ne_nil hne
    have hhead : (stripBlank lines).head? = some first := by rw [hblock]; rfl
    have hmem : first ∈ stripBlank lines := by rw [hblock]; exact List.mem_cons_self
    have hopen := head?_stripBlank hhead
    rw [h first (mem_of_mem_stripBlank hmem)] at hopen
    cases hopen

theorem dropBlankEnd_concat {last : String} (h : isBlankLine last = false) (front : List String) :
    dropBlankEnd (front ++ [last]) = front ++ [last] := by
  induction front with
  | nil =>
    change (if isBlankLine last = true then [] else [last]) = _
    rw [h, if_neg Bool.false_ne_true]
    rfl
  | cons first front ih =>
    obtain ⟨next, rest, hrest⟩ := List.exists_cons_of_ne_nil (List.append_ne_nil_of_right_ne_nil front
      (List.cons_ne_nil last []))
    rw [List.cons_append, dropBlankEnd, ih, hrest]

theorem Framed.stripBlank_eq (h : Framed block) : stripBlank block = block := by
  cases h with
  | @single line h =>
    rw [stripBlank, List.dropWhile_cons_of_neg (by simp [h])]
    exact dropBlankEnd_concat h []
  | @ends first last middle hfirst hlast =>
    rw [stripBlank, List.dropWhile_cons_of_neg (by simp [hfirst]), ← List.cons_append]
    exact dropBlankEnd_concat hlast _

end Frame

section Ends

def trimEnds : List String → List String
  | [] => []
  | first :: rest => trimLastLine (.ofList (trimStart first.toList) :: rest)

variable {lines block : List String}

theorem trimBlock_eq (lines : List String) :
    trimBlock lines = if stripBlank lines = [] then [""] else trimEnds (stripBlank lines) := by
  rw [trimBlock, ← stripBlank]
  cases stripBlank lines with
  | nil => rfl
  | cons first rest => rfl

theorem trimLastLine_concat (front : List String) (last : String) :
    trimLastLine (front ++ [last]) = front ++ [.ofList (trimEnd last.toList)] := by
  induction front with
  | nil => rfl
  | cons first front ih =>
    obtain ⟨next, rest, hrest⟩ := List.exists_cons_of_ne_nil (List.append_ne_nil_of_right_ne_nil front
      (List.cons_ne_nil last []))
    rw [hrest] at ih
    rw [List.cons_append, hrest, trimLastLine, ih]
    · rfl
    · exact List.cons_ne_nil next rest

theorem trimEnds_single (line : String) : trimEnds [line] = [.ofList (trim line.toList)] := by
  rw [trimEnds, trimLastLine, String.toList_ofList, trim]

theorem trimEnds_ends (first last : String) (middle : List String) :
    trimEnds (first :: (middle ++ [last])) =
      .ofList (trimStart first.toList) :: (middle ++ [.ofList (trimEnd last.toList)]) :=
  trimLastLine_concat (.ofList (trimStart first.toList) :: middle) last

theorem isBlankLine_trimStart (line : String) :
    isBlankLine (.ofList (trimStart line.toList)) = isBlankLine line := by
  rw [isBlankLine, String.toList_ofList, allBlank_trimStart, isBlankLine]

theorem isBlankLine_trimEnd (line : String) : isBlankLine (.ofList (trimEnd line.toList)) = isBlankLine line := by
  rw [isBlankLine, String.toList_ofList, allBlank_trimEnd, isBlankLine]

theorem Framed.trimEnds (h : Framed block) : Framed (trimEnds block) := by
  cases h with
  | @single line h =>
    rw [trimEnds_single]
    refine .single ?_
    rw [trim, ← String.toList_ofList (l := trimStart line.toList), isBlankLine_trimEnd, isBlankLine_trimStart, h]
  | @ends first last middle hfirst hlast =>
    rw [trimEnds_ends]
    exact .ends middle (by rw [isBlankLine_trimStart, hfirst]) (by rw [isBlankLine_trimEnd, hlast])

theorem Framed.trimEnds_trimEnds (h : Framed block) :
    Fragment.trimEnds (Fragment.trimEnds block) = Fragment.trimEnds block := by
  cases h with
  | @single line h => rw [trimEnds_single, trimEnds_single, String.toList_ofList, trim_trim]
  | @ends first last middle hfirst hlast =>
    rw [trimEnds_ends, trimEnds_ends, String.toList_ofList, String.toList_ofList, trimStart_trimStart,
      trimEnd_trimEnd]

theorem Framed.length_trimEnds (h : Framed block) : (Fragment.trimEnds block).length = block.length := by
  cases h with
  | single h => rw [trimEnds_single]; rfl
  | ends middle hfirst hlast => simp [trimEnds_ends]

theorem joined_concat_trimEnd {last : String} (h : isBlankLine last = false) (front : List String) :
    joined (front ++ [.ofList (trimEnd last.toList)]) = trimEnd (joined (front ++ [last])) := by
  by_cases hnil : front = []
  · rw [hnil, List.nil_append, List.nil_append, joined_singleton, joined_singleton, String.toList_ofList]
  · have hlast : allBlank ('\n' :: last.toList) = false := h
    rw [joined_append hnil (List.cons_ne_nil _ _), joined_append hnil (List.cons_ne_nil _ _), joined_singleton,
      joined_singleton, String.toList_ofList, trimEnd_append hlast, trimEnd_cons h]

theorem Framed.joined_trimEnds (h : Framed block) :
    joined (Fragment.trimEnds block) = trim (joined block) := by
  cases h with
  | single h => rw [trimEnds_single, joined_singleton, joined_singleton, String.toList_ofList]
  | @ends first last middle hfirst hlast =>
    have hrest : middle ++ [last] ≠ [] := List.append_ne_nil_of_right_ne_nil middle (List.cons_ne_nil last [])
    have hopen : allBlank (joined (middle ++ [last])) = false := allBlank_joined_concat hlast middle
    have hbehind : allBlank ('\n' :: joined (middle ++ [last])) = false := hopen
    have hfirst : allBlank first.toList = false := hfirst
    have hstart := trimStart_append_of_open hfirst ('\n' :: joined (middle ++ [last]))
    rw [trimEnds_ends, joined_cons first hrest, trim, hstart, trimEnd_append hbehind, trimEnd_cons hopen,
      joined_cons _ (List.append_ne_nil_of_right_ne_nil middle (List.cons_ne_nil _ [])),
      joined_concat_trimEnd hlast, String.toList_ofList]

theorem Framed.getElem?_trimEnds (h : Framed block) {i : Nat} (hstart : 0 < i) (hend : i + 1 < block.length) :
    (Fragment.trimEnds block)[i]? = block[i]? := by
  cases h with
  | single h => simp at hend
  | ends middle hfirst hlast =>
    obtain ⟨j, rfl⟩ := Nat.exists_eq_succ_of_ne_zero (Nat.ne_of_gt hstart)
    have hj : j < middle.length := by simpa using hend
    rw [trimEnds_ends, List.getElem?_cons_succ, List.getElem?_cons_succ, List.getElem?_append_left hj,
      List.getElem?_append_left hj]

end Ends

section Positions

structure Extent (lines : List String) (first last : Nat) : Prop where
  first_open : ∃ line, lines[first]? = some line ∧ isBlankLine line = false
  last_open : ∃ line, lines[last]? = some line ∧ isBlankLine line = false
  outside : ∀ i line, lines[i]? = some line → i < first ∨ last < i → isBlankLine line = true

variable {before block behind : List String}

theorem Framed.first_open (h : Framed block) : ∃ line, block[0]? = some line ∧ isBlankLine line = false := by
  cases h with
  | @single line h => exact ⟨line, rfl, h⟩
  | @ends first last middle hfirst hlast => exact ⟨first, rfl, hfirst⟩

theorem Framed.last_open (h : Framed block) :
    ∃ line, block[block.length - 1]? = some line ∧ isBlankLine line = false := by
  rw [← List.getLast?_eq_getElem?]
  cases h with
  | @single line h => exact ⟨line, rfl, h⟩
  | @ends first last middle hfirst hlast => exact ⟨last, List.getLast?_concat (l := first :: middle), hlast⟩

theorem getElem?_block (before behind : List String) {i : Nat} (h : i < block.length) :
    (before ++ (block ++ behind))[before.length + i]? = block[i]? := by
  rw [List.getElem?_append_right (Nat.le_add_right _ _), Nat.add_sub_cancel_left, List.getElem?_append_left h]

theorem Framed.extent (h : Framed block) (hbefore : ∀ line ∈ before, isBlankLine line = true)
    (hbehind : ∀ line ∈ behind, isBlankLine line = true) :
    Extent (before ++ (block ++ behind)) before.length (before.length + (block.length - 1)) := by
  have hlength := List.length_pos_of_ne_nil h.ne_nil
  refine ⟨?_, ?_, ?_⟩
  · have hfirst := getElem?_block before behind hlength
    rw [Nat.add_zero] at hfirst
    rw [hfirst]
    exact h.first_open
  · rw [getElem?_block before behind (by omega)]
    exact h.last_open
  · rintro i line hline (hi | hi)
    · rw [List.getElem?_append_left hi] at hline
      exact hbefore line (List.mem_of_getElem? hline)
    · rw [List.getElem?_append_right (by omega), List.getElem?_append_right (by omega)] at hline
      exact hbehind line (List.mem_of_getElem? hline)

end Positions

section Result

variable {lines : List String}

theorem trimBlock_of_blank (h : ∀ line ∈ lines, isBlankLine line = true) : trimBlock lines = [""] := by
  rw [trimBlock_eq, if_pos (stripBlank_eq_nil_iff.mpr h)]

theorem trimBlock_of_open (h : stripBlank lines ≠ []) :
    trimBlock lines = trimEnds (stripBlank lines) ∧ Framed (stripBlank lines) := by
  rw [trimBlock_eq, if_neg h]
  exact ⟨rfl, framed_stripBlank h⟩

theorem joined_trimBlock (lines : List String) : joined (trimBlock lines) = trim (joined lines) := by
  by_cases h : stripBlank lines = []
  · have hblank := stripBlank_eq_nil_iff.mp h
    rw [trimBlock_of_blank hblank, (trim_eq_nil_iff _).mpr (allBlank_joined hblank)]
    rfl
  · obtain ⟨heq, hframed⟩ := trimBlock_of_open h
    obtain ⟨before, behind, hlines, hbefore, hbehind⟩ := exists_eq_append_stripBlank lines
    have hne : stripBlank lines ++ behind ≠ [] := List.append_ne_nil_of_left_ne_nil h behind
    calc joined (trimBlock lines) = trim (joined (stripBlank lines)) := by rw [heq, hframed.joined_trimEnds]
      _ = trim (joined (stripBlank lines ++ behind)) := (trim_joined_behind hbehind h).symm
      _ = trim (joined (before ++ (stripBlank lines ++ behind))) := (trim_joined_before hbefore hne).symm
      _ = trim (joined lines) := by rw [← hlines]

theorem trimBlock_trimBlock (lines : List String) : trimBlock (trimBlock lines) = trimBlock lines := by
  by_cases h : stripBlank lines = []
  · rw [trimBlock_of_blank (stripBlank_eq_nil_iff.mp h)]
    rfl
  · obtain ⟨heq, hframed⟩ := trimBlock_of_open h
    have hkept := hframed.trimEnds.stripBlank_eq
    rw [heq, trimBlock_eq, hkept, if_neg hframed.trimEnds.ne_nil, hframed.trimEnds_trimEnds]

theorem trimBlock_eq_blank_iff : trimBlock lines = [""] ↔ ∀ line ∈ lines, isBlankLine line = true := by
  refine ⟨fun heq => ?_, trimBlock_of_blank⟩
  rw [← stripBlank_eq_nil_iff]
  by_contra h
  obtain ⟨hends, hframed⟩ := trimBlock_of_open h
  have hkept := hframed.trimEnds.stripBlank_eq
  rw [← hends, heq] at hkept
  exact absurd hkept (by decide)

theorem exists_extent (h : ∃ line ∈ lines, isBlankLine line = false) :
    ∃ first last, Extent lines first last ∧ first ≤ last ∧ (trimBlock lines).length = last - first + 1 ∧
      ∀ i, first < i → i < last → (trimBlock lines)[i - first]? = lines[i]? := by
  have hne : stripBlank lines ≠ [] := by
    obtain ⟨line, hline, hopen⟩ := h
    intro hnil
    rw [stripBlank_eq_nil_iff.mp hnil line hline] at hopen
    cases hopen
  obtain ⟨heq, hframed⟩ := trimBlock_of_open hne
  obtain ⟨before, behind, hlines, hbefore, hbehind⟩ := exists_eq_append_stripBlank lines
  have hlength := List.length_pos_of_ne_nil hne
  generalize stripBlank lines = block at *
  subst hlines
  refine ⟨_, _, hframed.extent hbefore hbehind, Nat.le_add_right _ _, ?_, ?_⟩
  · rw [heq, hframed.length_trimEnds]
    omega
  · intro i hfirst hlast
    obtain ⟨j, rfl⟩ := Nat.exists_eq_add_of_le (Nat.le_of_lt hfirst)
    rw [Nat.add_sub_cancel_left, getElem?_block before behind (by omega), heq]
    exact hframed.getElem?_trimEnds (by omega) (by omega)

theorem trimBlock_ne_nil (lines : List String) : trimBlock lines ≠ [] := by
  by_cases h : stripBlank lines = []
  · rw [trimBlock_of_blank (stripBlank_eq_nil_iff.mp h)]
    exact List.cons_ne_nil _ _
  · obtain ⟨heq, hframed⟩ := trimBlock_of_open h
    rw [heq]
    exact hframed.trimEnds.ne_nil

theorem block_trimmed (lines : List String) :
    "\n".intercalate (trimBlock lines) = .ofList (trim ("\n".intercalate lines).toList) ∧
    trimBlock lines ≠ [] ∧
    (trimBlock lines = [""] ↔ ∀ line ∈ lines, isBlankLine line = true) ∧
    ((∃ line ∈ lines, isBlankLine line = false) → ∃ first last, Extent lines first last ∧ first ≤ last ∧
      (trimBlock lines).length = last - first + 1 ∧
      ∀ i, first < i → i < last → (trimBlock lines)[i - first]? = lines[i]?) ∧
    trimBlock (trimBlock lines) = trimBlock lines := by
  refine ⟨?_, trimBlock_ne_nil lines, trimBlock_eq_blank_iff, exists_extent, trimBlock_trimBlock lines⟩
  have hjoined : ("\n".intercalate (trimBlock lines)).toList = trim ("\n".intercalate lines).toList :=
    joined_trimBlock lines
  rw [← hjoined, String.ofList_toList]

end Result

end WorkflowScript.Fragment
