import WorkflowScript.Proofs.Fragment.Block
import WorkflowScript.Proofs.Fragment.Dispatch

namespace WorkflowScript.Fragment

open Line Text

structure IsCommand (lines : List (List Char)) : Prop where
  starts : ∃ first rest, lines = first :: rest ∧ dispatchWord <+: first ∧
    ∀ line ∈ rest, continuationIndent <+: line
  goOn : ∀ line ∈ lines.dropLast, goesOn line = true

structure Guarded (lines : List (List Char)) : Prop extends IsCommand lines where
  jumps : ∃ last, lines.getLast? = some last ∧ errorJump <:+ last

structure LeftOpen (lines : List (List Char)) : Prop extends IsCommand lines where
  allGoOn : ∀ line ∈ lines, goesOn line = true

structure Commands (lines : List (List Char)) (closed : List (List (List Char)))
    (pending : List (List Char)) : Prop where
  split : lines = closed.flatten ++ pending
  closed : ∀ command ∈ closed, Guarded command
  pending : pending = [] ∨ LeftOpen pending

def GuardedOrOpen (lines : List (List Char)) : Prop :=
  ∃ closed pending, Commands lines closed pending ∧ ∀ last, lines.getLast? = some last →
    (pending = [] ∧ errorJump <:+ last) ∨ (pending ≠ [] ∧ goesOn last = true)

section Cut

variable {bindings : Bindings} {state after : Continuing} {raw line : List Char}
  {raws lines pending : List (List Char)}

theorem isCommand_singleton (h : dispatchWord <+: line) : IsCommand [line] where
  starts := ⟨line, [], rfl, h, by simp⟩
  goOn := by simp

theorem LeftOpen.isCommand_append (h : LeftOpen pending) (hline : continuationIndent <+: line) :
    IsCommand (pending ++ [line]) := by
  obtain ⟨⟨⟨first, rest, rfl, hfirst, hrest⟩, -⟩, hall⟩ := h
  refine ⟨⟨first, rest ++ [line], rfl, hfirst, ?_⟩, ?_⟩
  · intro other hother
    rcases List.mem_append.mp hother with hother | hother
    · exact hrest other hother
    · exact List.mem_singleton.mp hother ▸ hline
  · rw [List.dropLast_concat]
    exact hall

def OpenWith (state : Continuing) (pending : List (List Char)) : Prop :=
  if state then LeftOpen pending else pending = []

theorem isCommand_of_dispatched (hopen : OpenWith state pending)
    (hline : Dispatched bindings state raw line) : IsCommand (pending ++ [line]) := by
  cases state with
  | false =>
    have hnil : pending = [] := hopen
    rw [hnil]
    exact isCommand_singleton hline.starts
  | true => exact LeftOpen.isCommand_append hopen hline.starts

theorem leftOpen_append (hcommand : IsCommand (pending ++ [line])) (hline : goesOn line = true) :
    LeftOpen (pending ++ [line]) := by
  refine ⟨hcommand, ?_⟩
  have hgoOn := hcommand.goOn
  rw [List.dropLast_concat] at hgoOn
  intro other hother
  rcases List.mem_append.mp hother with hother | hother
  · exact hgoOn other hother
  · exact List.mem_singleton.mp hother ▸ hline

theorem Chain.commands (h : Chain bindings state raws lines after) (hopen : OpenWith state pending) :
    ∃ closed rest, Commands (pending ++ lines) closed rest ∧ OpenWith after rest := by
  induction h generalizing pending with
  | nil state =>
    refine ⟨[], pending, ⟨by simp, by simp, ?_⟩, hopen⟩
    cases state with
    | false => exact .inl hopen
    | true => exact .inr hopen
  | @cons state after raw line raws lines hline hrest ih =>
    have hcommand := isCommand_of_dispatched hopen hline
    rw [List.append_cons]
    rcases hline.ends with ⟨hgoes, -⟩ | ⟨hgoes, hjump⟩
    · -- the command goes on: the line joins those that are open
      rw [hgoes] at ih
      exact ih (leftOpen_append hcommand hgoes)
    · rw [hgoes] at ih
      obtain ⟨closed, rest, hcommands, hafter⟩ := ih (show OpenWith false [] from rfl)
      have hguarded : Guarded (pending ++ [line]) := ⟨hcommand, line, by simp, hjump⟩
      refine ⟨(pending ++ [line]) :: closed, rest, ⟨?_, ?_, hcommands.pending⟩, hafter⟩
      · have hsplit := hcommands.split
        rw [List.nil_append] at hsplit
        rw [hsplit, List.flatten_cons]
        simp only [List.append_assoc]
      · exact List.forall_mem_cons.mpr ⟨hguarded, hcommands.closed⟩

theorem LeftOpen.ne_nil (h : LeftOpen lines) : lines ≠ [] := by
  obtain ⟨first, rest, rfl, -⟩ := h.starts
  exact List.cons_ne_nil _ _

theorem Commands.last {closed : List (List (List Char))} (h : Commands lines closed pending)
    {last : List Char} (hlast : lines.getLast? = some last) :
    (pending = [] ∧ errorJump <:+ last) ∨ (pending ≠ [] ∧ goesOn last = true) := by
  rw [h.split] at hlast
  rcases h.pending with rfl | hopen
  · left
    rw [List.append_nil] at hlast
    rcases closed.eq_nil_or_concat with rfl | ⟨front, command, rfl⟩
    · cases hlast
    · obtain ⟨final, hfinal, hjump⟩ := (h.closed command (by simp)).jumps
      have hne : command ≠ [] := by
        rintro rfl
        cases hfinal
      rw [List.concat_eq_append, List.flatten_concat, List.getLast?_append_of_ne_nil _ hne, hfinal]
        at hlast
      cases hlast
      exact ⟨rfl, hjump⟩
  · right
    rw [List.getLast?_append_of_ne_nil _ hopen.ne_nil] at hlast
    exact ⟨hopen.ne_nil, hopen.allGoOn last (List.mem_of_getLast? hlast)⟩

end Cut

section Block

variable {bindings : Bindings} {state after : Continuing} {raw line : List Char}
  {raws : List (List Char)} {lines : List String}

theorem Chain.exists_dispatched {texts : List (List Char)} (h : Chain bindings state raws texts after)
    (hline : line ∈ texts) : ∃ state raw, Dispatched bindings state raw line := by
  obtain ⟨i, hi⟩ := List.mem_iff_getElem?.mp hline
  obtain ⟨raw, -, hdispatched⟩ := h.dispatched hi
  exact ⟨_, raw, hdispatched⟩

theorem exists_concat_of_dispatched (h : Dispatched bindings state raw line) :
    ∃ front c, line = front ++ [c] ∧ isBlank c = false := by
  rcases h.ends with ⟨hgoes, -⟩ | ⟨-, front, rfl⟩
  · have hlast : line.getLast? = some continuationMark := eq_of_beq hgoes
    obtain ⟨front, rfl⟩ := List.getLast?_eq_some_iff.mp hlast
    exact ⟨front, _, rfl, by decide⟩
  · exact ⟨front ++ errorJump.dropLast, 'R', by rw [List.append_assoc]; rfl, by decide⟩

theorem mem_shown_iff {line : String} (hne : line ≠ "") : line.toList ∈ shown lines ↔ line ∈ lines := by
  simp [shown, hne, String.toList_inj]

theorem tight_of_chain (h : Chain bindings false raws (shown lines) after) : Tight lines := by
  have hcases : ∀ line ∈ lines, line = "" ∨ ∃ state raw, Dispatched bindings state raw line.toList := by
    intro line hline
    by_cases hne : line = ""
    · exact .inl hne
    · exact .inr (h.exists_dispatched ((mem_shown_iff hne).mpr hline))
  have hblank : ∀ line ∈ lines, isBlankLine line = true → line = "" := by
    intro line hline hblank
    refine (hcases line hline).resolve_right ?_
    rintro ⟨state, raw, hdispatched⟩
    obtain ⟨front, c, heq, hc⟩ := exists_concat_of_dispatched hdispatched
    rw [isBlankLine, heq, allBlank_append, Bool.and_eq_true] at hblank
    simp [allBlank, hc] at hblank
  refine ⟨hblank, ?_, ?_⟩
  · intro first hfirst
    have hne : first ≠ "" := ne_empty_of_isBlankLine (head?_stripBlank hfirst)
    obtain ⟨rest, hrest⟩ : ∃ rest, shown lines = first.toList :: rest := by
      obtain ⟨tail, htail⟩ := List.head?_eq_some_iff.mp hfirst
      rw [← shown_stripBlank hblank, htail]
      exact ⟨shown tail, by simp [shown, hne]⟩
    rw [hrest] at h
    cases h with
    | cons hline _ =>
      obtain ⟨text, htext⟩ := hline.starts
      rw [← htext]
      exact trimStart_cons (by decide) _
  · intro line hline
    rcases hcases line hline with rfl | ⟨state, raw, hdispatched⟩
    · rfl
    · obtain ⟨front, c, heq, hc⟩ := exists_concat_of_dispatched hdispatched
      rw [heq, trimEnd_concat hc]

end Block

theorem exists_chain_of_transform {bindings : Bindings} {text : String} {lines : List String}
    (h : transform .batch bindings text = .ok lines) :
    ∃ after, Chain bindings false (spoken .batch bindings (physicalLines text.toList)) (shown lines) after := by
  obtain ⟨emitted, after, hruns, rfl⟩ := transformLines_eq_ok_iff.mp h
  rw [hruns.shown_eq]
  exact ⟨after, hruns.chain⟩

theorem guardedOrOpen_of_transform {bindings : Bindings} {text : String} {lines : List String}
    (h : transform .batch bindings text = .ok lines) : GuardedOrOpen (shown lines) := by
  obtain ⟨after, hchain⟩ := exists_chain_of_transform h
  obtain ⟨closed, pending, hcommands, -⟩ := hchain.commands (show OpenWith false [] from rfl)
  exact ⟨closed, pending, hcommands, fun last => hcommands.last⟩

end WorkflowScript.Fragment
