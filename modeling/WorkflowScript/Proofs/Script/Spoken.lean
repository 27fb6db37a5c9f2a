import WorkflowScript.Proofs.Shell.Spoken
import WorkflowScript.Script.Layout

namespace WorkflowScript.Script

open Shell

inductive Speaks : List String → List Char → Prop where
  | nil : Speaks [] []
  | cons {line : String} {lines : List String} {shown text : List Char} (hline : Spoken line.toList shown)
      (h : Speaks lines text) : Speaks (line :: lines) (shown ++ text)

variable {line : String} {lines front : List String} {shown text : List Char}

namespace Speaks

theorem blank (h : Speaks lines text) : Speaks ("" :: lines) text := @cons "" lines [] text .blank h

theorem one (h : Spoken line.toList shown) : Speaks [line] shown := by
  have hspeaks := Speaks.cons h .nil
  rwa [List.append_nil] at hspeaks

theorem append (hfront : Speaks front shown) (h : Speaks lines text) :
    Speaks (front ++ lines) (shown ++ text) := by
  induction hfront with
  | nil => exact h
  | cons hline hfront ih =>
    rw [List.append_assoc]
    exact .cons hline ih

theorem flatMap {α : Type} {items : List α} {linesOf : α → List String} {textOf : α → List Char}
    (h : ∀ item ∈ items, Speaks (linesOf item) (textOf item)) :
    Speaks (items.flatMap linesOf) (items.flatMap textOf) := by
  induction items with
  | nil => exact .nil
  | cons item items ih =>
    obtain ⟨hitem, hitems⟩ := List.forall_mem_cons.mp h
    exact hitem.append (ih hitems)

theorem exists_forall₂ (h : Speaks lines text) :
    ∃ printeds, List.Forall₂ Spoken (lines.map String.toList) printeds ∧ printeds.flatten = text := by
  induction h with
  | nil => exact ⟨[], .nil, rfl⟩
  | @cons line lines shown text hline h ih =>
    obtain ⟨printeds, hspoken, hflatten⟩ := ih
    exact ⟨shown :: printeds, .cons hline hspoken, by rw [List.flatten_cons, hflatten]⟩

end Speaks

section Banners

def ruleText (c : Char) : List Char := List.replicate ruleWidth c ++ ['\n']

def bordered (c : Char) (text : List Char) : List Char := ruleText c ++ (text ++ '\n' :: ruleText c)

theorem isPlainText_rule {c : Char} (hc : c = '=' ∨ c = '-') : IsPlainText (List.replicate ruleWidth c) := by
  have hplain : isPlain c = true := by rcases hc with rfl | rfl <;> decide
  have hword : IsPlainWord (List.replicate ruleWidth c) :=
    ⟨by simp [ruleWidth], fun d hd => List.eq_of_mem_replicate hd ▸ hplain⟩
  exact hword.isPlainText (by rcases hc with rfl | rfl <;> decide)

theorem spoken_plain {title : String} (h : IsPlainText title.toList) :
    Spoken ("echo " ++ title).toList (title.toList ++ ['\n']) := by
  rw [String.toList_append]
  exact .plain h

theorem spoken_rule {c : Char} (hc : c = '=' ∨ c = '-') : Spoken (rule c).toList (ruleText c) := by
  have hspoken := @spoken_plain (.ofList (List.replicate ruleWidth c))
  rw [String.toList_ofList] at hspoken
  exact hspoken (isPlainText_rule hc)

def jobTitle (job : String) (count : Nat) : List Char :=
  "job ".toList ++ job.toList ++ ": matrix count=".toList ++ (toString count).toList

theorem isPlainWord_count (count : Nat) : IsPlainWord ("count=".toList ++ (toString count).toList) := by
  refine IsPlainWord.append (.of_all rfl rfl) fun c hc => ?_
  rw [Nat.toString_eq_repr, Nat.toList_repr] at hc
  have hdigit := Nat.isDigit_of_mem_toDigits (by decide) (by decide) hc
  exact isPlain_of_isAlphanum (by rw [Char.isAlphanum, hdigit, Bool.or_true])

theorem spoken_job {job : String} (hquote : '\'' ∉ job.toList) (hnul : '\x00' ∉ job.toList) (count : Nat) :
    Spoken ("echo job '" ++ job ++ "': matrix count=" ++ toString count).toList (jobTitle job count ++ ['\n']) := by
  have hjob : IsPlainWord "job".toList := .of_all rfl rfl
  have hcolon : IsPlainWord [':'] := .of_all rfl rfl
  have hmatrix : IsPlainWord "matrix".toList := .of_all rfl rfl
  have hspells := Spells.plain hjob
    (.single hquote hnul hcolon (.plain hmatrix (.plain (isPlainWord_count count) .nil)))
  have hspoken := hspells.spoken fun _ hmem => by
    cases hmem
    rfl
  convert hspoken using 1
  · simp
  · simp [jobTitle]

theorem speaks_bordered {c : Char} (hc : c = '=' ∨ c = '-') {shown : List Char}
    (hline : Spoken line.toList (shown ++ ['\n'])) : Speaks ["", "", rule c, line, rule c] (bordered c shown) := by
  have hspeaks := (Speaks.cons (spoken_rule hc) (.cons hline (.cons (spoken_rule hc) .nil))).blank.blank
  rwa [List.append_nil, List.append_assoc] at hspeaks

end Banners

section Blocks

def Section.printed (part : Section) (text : List Char) : List Char := bordered '-' part.title.toList ++ text

theorem speaks_section {part : Section} (htitle : IsPlainText part.title.toList)
    (hbody : Speaks part.body.lines text) : Speaks part.lines (part.printed text) := by
  have hbanner := (speaks_bordered (.inr rfl) (spoken_plain htitle)).append Speaks.nil.blank
  rw [List.append_nil] at hbanner
  exact hbanner.append hbody

theorem speaks_block {block : JobBlock} (hquote : '\'' ∉ block.job.toList) (hnul : '\x00' ∉ block.job.toList)
    (hsections : Speaks (block.sections.flatMap Section.lines) text) :
    Speaks block.lines (bordered '=' (jobTitle block.job block.count) ++ text) :=
  (speaks_bordered (.inl rfl) (spoken_job hquote hnul block.count)).append hsections

theorem speaks_preamble {options : Options} (htarget : options.target = .shell) :
    Speaks (preamble options) [] := by
  rw [preamble, htarget]
  dsimp only
  split
  · exact @Speaks.cons "set -e" [""] [] [] .strict Speaks.nil.blank
  · exact .nil

end Blocks

section Inputs

structure IsListed (name value : String) : Prop where
  name : IsPlainWord name.toList
  kept : ∀ c ∈ value.toList, isKept c = true
  no_nul : '\x00' ∉ value.toList
  bare : ' ' ∉ value.toList → ∀ c ∈ value.toList, isBare c = true

def listingLine (name value : String) : List Char := name.toList ++ '=' :: (value.toList ++ ['\n'])

theorem spells_input {name value : String} (h : IsListed name value) :
    Spells (' ' :: ((name.toList ++ ['=']) ++ (quoteIfNeeded value).toList))
      [name.toList ++ ['='] ++ value.toList] := by
  have hname : IsPlainWord (name.toList ++ ['=']) := h.name.append (List.forall_mem_singleton.mpr rfl)
  rw [quoteIfNeeded]
  split
  · next hspace => simpa using Spells.double hname h.kept h.no_nul .nil
  · next hspace =>
    have hvalue : ∀ c ∈ value.toList, isPlain c = true := by
      intro c hc
      rw [isPlain, h.bare hspace c hc, Bool.true_and, bne_iff_ne]
      rintro rfl
      exact h.no_nul hc
    simpa using Spells.plain (hname.append hvalue) .nil

theorem spoken_input {name value : String} (h : IsListed name value) :
    Spoken (inputLine (name, .ofDefault value)).toList (listingLine name value) := by
  have hspoken := (spells_input h).blank.blank.spoken fun word hmem => by
    cases hmem
    exact isEchoOption_of_mem (by simp)
  convert hspoken using 1
  · simp [inputLine, Input.ofDefault, Input.text]
  · simp [listingLine]

def listing (inputs : InputTable) (valueOf : String → String) : List Char :=
  if inputs.isEmpty then [] else
    "inputs:\n".toList ++ inputs.sorted.flatMap fun entry => listingLine entry.1 (valueOf entry.1)

theorem speaks_inputs {inputs : InputTable} {valueOf : String → String}
    (h : ∀ entry ∈ inputs.sorted, entry.2 = .ofDefault (valueOf entry.1) ∧ IsListed entry.1 (valueOf entry.1)) :
    Speaks (inputLines inputs) (listing inputs valueOf) := by
  rw [inputLines, listing]
  split
  · exact .nil
  · have hword : IsPlainWord "inputs:".toList := .of_all rfl rfl
    have hentries : Speaks (inputs.sorted.flatMap fun entry => [inputLine entry])
        (inputs.sorted.flatMap fun entry => listingLine entry.1 (valueOf entry.1)) := by
      refine .flatMap fun entry hentry => ?_
      obtain ⟨name, input⟩ := entry
      obtain ⟨hinput, hlisted⟩ := h _ hentry
      obtain rfl : input = .ofDefault (valueOf name) := hinput
      exact .one (spoken_input hlisted)
    rw [List.map_eq_flatMap]
    exact .cons (spoken_plain (hword.isPlainText rfl)) hentries

end Inputs

section Body

variable {script : Script}

theorem speaks_script (htarget : script.options.target = .shell) (hinputs : Speaks (inputLines script.inputs) shown)
    (hblocks : Speaks (script.blocks.flatMap JobBlock.lines) text) : Speaks script.lines (shown ++ text) := by
  have hspeaks := ((speaks_preamble htarget).append hinputs).append hblocks
  rw [lines, htarget, footer, List.append_nil]
  exact hspeaks

theorem intercalate_lineFeed (h : lines ≠ []) :
    ("\n".intercalate lines).toList ++ ['\n'] = (lines.map String.toList).flatMap (· ++ ['\n']) := by
  induction lines with
  | nil => exact absurd rfl h
  | cons line lines ih =>
    cases lines with
    | nil => simp
    | cons next lines =>
      rw [String.intercalate_cons_cons, String.toList_append, String.toList_append, List.append_assoc,
        ih (List.cons_ne_nil _ _)]
      rfl

theorem forall₂_lines (h : Speaks lines text) : ∃ spoken printeds, List.Forall₂ Spoken spoken printeds ∧
    printeds.flatten = text ∧
    ("\n".intercalate lines).toList ++ ['\n'] = spoken.flatMap (· ++ ['\n']) := by
  cases h with
  | nil => exact ⟨[[]], [[]], .cons .blank .nil, rfl, rfl⟩
  | @cons line lines shown text hline h =>
    obtain ⟨printeds, hspoken, hflatten⟩ := (Speaks.cons hline h).exists_forall₂
    exact ⟨_, printeds, hspoken, hflatten, intercalate_lineFeed (List.cons_ne_nil _ _)⟩

theorem run_body (htarget : script.options.target = .shell) (h : Speaks script.lines text) (setting : Setting)
    (name : String) : Shell.run setting name script.body = ⟨0, Text.Utf8.encode text, [], setting.files⟩ := by
  obtain ⟨spoken, printeds, hspoken, rfl, hlines⟩ := forall₂_lines h
  refine run_spoken hspoken setting name script.body ?_
  rw [body, htarget]
  exact hlines

end Body

end WorkflowScript.Script
