import WorkflowScript.Proofs.Fragment.Run

namespace WorkflowScript.Fragment

open Text

section Each

theorem mem_of_mem_dropBlankEnd {lines : List String} {line : String} (h : line ∈ dropBlankEnd lines) :
    line ∈ lines := by
  induction lines with
  | nil => cases h
  | cons first lines ih =>
    rw [dropBlankEnd] at h
    cases hkept : dropBlankEnd lines with
    | nil =>
      simp only [hkept] at h
      split at h
      · cases h
      · exact List.mem_cons.mpr (.inl (List.mem_singleton.mp h))
    | cons next kept =>
      simp only [hkept] at h ih
      rcases List.mem_cons.mp h with rfl | h
      · exact List.mem_cons_self
      · exact List.mem_cons_of_mem _ (ih h)

def stripBlank (lines : List String) : List String := dropBlankEnd (lines.dropWhile isBlankLine)

theorem mem_of_mem_stripBlank {lines : List String} {line : String} (h : line ∈ stripBlank lines) :
    line ∈ lines :=
  (List.dropWhile_sublist _).mem (mem_of_mem_dropBlankEnd h)

variable {P : List Char → Prop}

theorem forall_mem_trimLastLine (hend : ∀ text, P text → P (trimEnd text)) {lines : List String}
    (h : ∀ line ∈ lines, P line.toList) : ∀ line ∈ trimLastLine lines, P line.toList := by
  induction lines with
  | nil => exact h
  | cons first lines ih =>
    obtain ⟨hfirst, hlines⟩ := List.forall_mem_cons.mp h
    cases lines with
    | nil =>
      rw [trimLastLine, List.forall_mem_singleton, String.toList_ofList]
      exact hend _ hfirst
    | cons next lines => exact List.forall_mem_cons.mpr ⟨hfirst, ih hlines⟩

theorem forall_mem_trimBlock (hnil : P []) (hstart : ∀ text, P text → P (trimStart text))
    (hend : ∀ text, P text → P (trimEnd text)) {lines : List String}
    (h : ∀ line ∈ lines, P line.toList) : ∀ line ∈ trimBlock lines, P line.toList := by
  have hkept : ∀ line ∈ stripBlank lines, P line.toList :=
    fun line hmem => h line (mem_of_mem_stripBlank hmem)
  rw [trimBlock, ← stripBlank]
  cases hblock : stripBlank lines with
  | nil => simpa using hnil
  | cons first kept =>
    rw [hblock] at hkept
    obtain ⟨hfirst, hrest⟩ := List.forall_mem_cons.mp hkept
    refine forall_mem_trimLastLine hend (List.forall_mem_cons.mpr ⟨?_, hrest⟩)
    rw [String.toList_ofList]
    exact hstart _ hfirst

theorem exists_infix_of_mem_trimBlock {lines : List String} {line : String} (h : line ∈ trimBlock lines)
    (hne : line ≠ "") : ∃ source ∈ lines, line.toList <:+: source.toList := by
  have hall := @forall_mem_trimBlock (fun text => text = [] ∨ ∃ source ∈ lines, text <:+: source.toList)
    (.inl rfl)
    (fun text htext => htext.elim (fun hnil => .inl (by rw [hnil]; rfl)) fun ⟨source, hsource, hpart⟩ =>
      .inr ⟨source, hsource, (List.dropWhile_suffix _).isInfix.trans hpart⟩)
    (fun text htext => htext.elim (fun hnil => .inl (by rw [hnil]; rfl)) fun ⟨source, hsource, hpart⟩ =>
      .inr ⟨source, hsource, (prefix_trimEnd text).isInfix.trans hpart⟩)
    lines (fun source hsource => .inr ⟨source, hsource, List.infix_rfl⟩) line h
  rcases hall with hnil | hsource
  · exact absurd (String.toList_eq_nil_iff.mp hnil) hne
  · exact hsource

end Each

section Ends

theorem getLast?_dropBlankEnd {lines : List String} {last : String}
    (h : (dropBlankEnd lines).getLast? = some last) : isBlankLine last = false := by
  induction lines with
  | nil => cases h
  | cons first lines ih =>
    rw [dropBlankEnd] at h
    cases hkept : dropBlankEnd lines with
    | nil =>
      simp only [hkept] at h
      split at h
      · cases h
      · next hopen =>
        cases h
        exact Bool.eq_false_iff.mpr hopen
    | cons next kept =>
      simp only [hkept] at h ih
      rw [List.getLast?_cons_cons] at h
      exact ih h

theorem head?_dropBlankEnd {lines : List String} {first : String}
    (h : (dropBlankEnd lines).head? = some first) : lines.head? = some first := by
  cases lines with
  | nil => cases h
  | cons line lines =>
    rw [dropBlankEnd] at h
    cases hkept : dropBlankEnd lines with
    | nil =>
      simp only [hkept] at h
      split at h
      · cases h
      · exact h
    | cons next kept =>
      simp only [hkept] at h
      exact h

theorem head?_stripBlank {lines : List String} {first : String}
    (h : (stripBlank lines).head? = some first) : isBlankLine first = false := by
  have hhead := List.head?_dropWhile_not isBlankLine lines
  rw [head?_dropBlankEnd h] at hhead
  exact hhead

theorem ne_empty_of_isBlankLine {line : String} (h : isBlankLine line = false) : line ≠ "" := by
  rintro rfl
  cases h

theorem trimLastLine_of_tight {lines : List String} (h : ∀ line ∈ lines, trimEnd line.toList = line.toList) :
    trimLastLine lines = lines := by
  induction lines with
  | nil => rfl
  | cons first lines ih =>
    obtain ⟨hfirst, hlines⟩ := List.forall_mem_cons.mp h
    cases lines with
    | nil => rw [trimLastLine, hfirst, String.ofList_toList]
    | cons next lines =>
      rw [trimLastLine, ih hlines]
      simp

end Ends

section Tight

def Compact (block : List String) : Prop :=
  block = [""] ∨ block.head? ≠ some "" ∧ block.getLast? ≠ some ""

structure Tight (lines : List String) : Prop where
  blank : ∀ line ∈ lines, isBlankLine line = true → line = ""
  fromStart : ∀ first, (stripBlank lines).head? = some first → trimStart first.toList = first.toList
  atEnd : ∀ line ∈ lines, trimEnd line.toList = line.toList

theorem shown_cons_empty (lines : List String) : shown ("" :: lines) = shown lines := rfl

theorem shown_dropWhile {lines : List String}
    (h : ∀ line ∈ lines, isBlankLine line = true → line = "") :
    shown (lines.dropWhile isBlankLine) = shown lines := by
  induction lines with
  | nil => rfl
  | cons first lines ih =>
    obtain ⟨hfirst, hlines⟩ := List.forall_mem_cons.mp h
    rw [List.dropWhile_cons]
    split
    · next hblank => rw [hfirst hblank, shown_cons_empty, ih hlines]
    · rfl

theorem shown_dropBlankEnd {lines : List String}
    (h : ∀ line ∈ lines, isBlankLine line = true → line = "") :
    shown (dropBlankEnd lines) = shown lines := by
  induction lines with
  | nil => rfl
  | cons first lines ih =>
    obtain ⟨hfirst, hlines⟩ := List.forall_mem_cons.mp h
    have hcons : shown (first :: lines) = shown [first] ++ shown (dropBlankEnd lines) := by
      rw [ih hlines, ← shown_append]
      rfl
    rw [dropBlankEnd, hcons]
    cases hkept : dropBlankEnd lines with
    | nil =>
      rw [show shown [] = [] from rfl, List.append_nil]
      change shown (if isBlankLine first = true then [] else [first]) = _
      split
      · next hblank => rw [hfirst hblank]; rfl
      · rfl
    | cons next kept =>
      rw [← shown_append]
      rfl

theorem shown_stripBlank {lines : List String} (h : ∀ line ∈ lines, isBlankLine line = true → line = "") :
    shown (stripBlank lines) = shown lines := by
  rw [stripBlank, shown_dropBlankEnd, shown_dropWhile h]
  intro line hmem
  exact h line ((List.dropWhile_sublist _).mem hmem)

variable {lines : List String}

theorem Tight.trimBlock_eq (h : Tight lines) :
    trimBlock lines = if stripBlank lines = [] then [""] else stripBlank lines := by
  have hkept : ∀ line ∈ stripBlank lines, trimEnd line.toList = line.toList :=
    fun line hmem => h.atEnd line (mem_of_mem_stripBlank hmem)
  have hstart := h.fromStart
  rw [trimBlock, ← stripBlank]
  cases hblock : stripBlank lines with
  | nil => rfl
  | cons first kept =>
    rw [hblock] at hkept hstart
    rw [if_neg (List.cons_ne_nil _ _)]
    change trimLastLine (.ofList (trimStart first.toList) :: kept) = _
    rw [hstart first rfl, String.ofList_toList]
    exact trimLastLine_of_tight hkept

theorem Tight.shown_trimBlock (h : Tight lines) : shown (trimBlock lines) = shown lines := by
  rw [← shown_stripBlank h.blank, h.trimBlock_eq]
  split
  · next hnil => rw [hnil]; rfl
  · rfl

theorem Tight.compact_trimBlock (h : Tight lines) : Compact (trimBlock lines) := by
  rw [h.trimBlock_eq]
  split
  · exact .inl rfl
  · refine .inr ⟨?_, ?_⟩
    · intro hhead
      exact ne_empty_of_isBlankLine (head?_stripBlank hhead) rfl
    · intro hlast
      exact ne_empty_of_isBlankLine (getLast?_dropBlankEnd hlast) rfl

end Tight

end WorkflowScript.Fragment
