import WorkflowScript.Proofs.Fragment.Block
import WorkflowScript.Proofs.Line.LineFeed
import WorkflowScript.Proofs.Script.Expressions
import WorkflowScript.Proofs.Script.Sources
import WorkflowScript.Proofs.Text.Cut

namespace WorkflowScript

open Outcome

def HasLineFeed (text : String) : Prop := '\n' ∈ text.toList

instance (text : String) : Decidable (HasLineFeed text) :=
  inferInstanceAs (Decidable ('\n' ∈ text.toList))

section Text

theorem hasLineFeed_append (front back : String) :
    HasLineFeed (front ++ back) ↔ HasLineFeed front ∨ HasLineFeed back := by
  rw [HasLineFeed, String.toList_append, List.mem_append]
  rfl

theorem hasLineFeed_intercalate {between : String} (h : ¬ HasLineFeed between) (parts : List String) :
    HasLineFeed (between.intercalate parts) ↔ ∃ part ∈ parts, HasLineFeed part := by
  induction parts with
  | nil => simp [HasLineFeed]
  | cons part parts ih =>
    cases parts with
    | nil => simp
    | cons next parts =>
      rw [String.intercalate_cons_cons, hasLineFeed_append, hasLineFeed_append, ih,
        or_iff_left h]
      simp

theorem not_hasLineFeed_toString (n : Nat) : ¬ HasLineFeed (toString n) := by
  intro hmem
  rw [HasLineFeed, Nat.toString_eq_repr, Nat.toList_repr] at hmem
  exact absurd (Nat.isDigit_of_mem_toDigits (by decide) (by decide) hmem) (by decide)

end Text

namespace Script

variable {workflow : Workflow} {options : Options}

section Frame

theorem hasLineFeed_describe (combination : Combination) :
    HasLineFeed combination.describe ↔
      ∃ pair ∈ combination.pairs, HasLineFeed pair.1 ∨ HasLineFeed pair.2 := by
  have hequals : ¬ HasLineFeed "=" := by decide
  rw [Combination.describe]
  cases hempty : combination.values.isEmpty with
  | true =>
    have hnil : combination.pairs = [] := List.isEmpty_iff.mp hempty
    have hplain : ¬ HasLineFeed "no matrix" := by decide
    simpa [hnil] using hplain
  | false =>
    rw [if_neg Bool.false_ne_true, hasLineFeed_intercalate (by decide)]
    simp [hasLineFeed_append, hequals]

theorem not_hasLineFeed_rule {c : Char} (h : c ≠ '\n') : ¬ HasLineFeed (rule c) := by
  simp [HasLineFeed, rule, List.mem_replicate, Ne.symm h]

theorem not_hasLineFeed_of_fixed {line : String} (h : line ∈ fixedLines) : ¬ HasLineFeed line := by
  simp only [fixedLines, List.mem_cons, List.not_mem_nil, or_false] at h
  rcases h with rfl | rfl | rfl | rfl
  · decide
  · decide
  · exact not_hasLineFeed_rule (by decide)
  · exact not_hasLineFeed_rule (by decide)

theorem hasLineFeed_iff_of_repeats {line : String} {texts : List String}
    (h : Repeats workflow options (.frame, line) texts) :
    HasLineFeed line ↔ ∃ text ∈ texts, HasLineFeed text := by
  cases h with
  | fixed h => simpa using not_hasLineFeed_of_fixed h
  | @input entry h =>
    have hfront : ¬ HasLineFeed "echo   " := by decide
    have hequals : ¬ HasLineFeed "=" := by decide
    simp [inputLine, hasLineFeed_append, hfront, hequals]
  | @job job h count =>
    have hfront : ¬ HasLineFeed "echo job '" := by decide
    have hcount : ¬ HasLineFeed "': matrix count=" := by decide
    have hdigits := not_hasLineFeed_toString count
    simp only [hasLineFeed_append, hfront, hcount, hdigits, false_or, or_false, List.mem_singleton,
      exists_eq_left]
  | @combination job combination h hretained =>
    have hfront : ¬ HasLineFeed "echo " := by decide
    have hcolon : ¬ HasLineFeed ": " := by decide
    simp only [sectionTitle, hasLineFeed_append, hasLineFeed_describe, hfront, hcolon, false_or, or_false,
      List.mem_cons, List.mem_flatMap, List.not_mem_nil, exists_eq_or_imp]
    grind
  | @runner job combination label h hretained hlabel hunsupported =>
    have hfront : ¬ HasLineFeed "echo Unsupported runner: " := by decide
    simp [hasLineFeed_append, hfront]

theorem not_hasLineFeed_around {line : String} (h : line ∈ preamble options ++ footer options.target) :
    ¬ HasLineFeed line := by
  have hplain : ∀ target failFast, ∀ line ∈ preamble ⟨target, options.onceOnly, failFast⟩ ++ footer target,
      ¬ HasLineFeed line := by
    intro target failFast
    cases target <;> cases failFast <;> simp [preamble, footer, errorStatus, HasLineFeed] <;> decide
  exact hplain options.target options.failFast line h

end Frame

inductive Carries (workflow : Workflow) (options : Options) : Marked → String → Prop
  | repeated {line text : String} {texts : List String}
      (h : Repeats workflow options (.frame, line) texts) (htext : text ∈ texts) :
      Carries workflow options (.frame, line) text
  | placed {job : Job} {combination : Combination} {runs : List String} {run line value : String}
      {raw text : List Char} {before after : Line.Continuing} (h : job ∈ declaredJobs workflow.root)
      (hruns : job.runs = .ok runs) (hretained : Retained options job combination) (hrun : run ∈ runs)
      (hraw : raw ∈ Fragment.physicalLines run.toList)
      (hline : Line.transform options.target ⟨InputTable.ofRoot workflow.root, combination⟩ before raw =
        .ok (.line text, after)) (hpart : line.toList <:+: text)
      (site : Placeholder.Site (Line.stripComment raw))
      (hvalue : Placeholder.Denotes ⟨InputTable.ofRoot workflow.root, combination⟩ site.placeholder value) :
      Carries workflow options (.step, line) value

theorem exists_carries_of_step {job : Job} {combination : Combination} {runs : List String}
    {fragments : List (List String)} {line : String} (h : job ∈ declaredJobs workflow.root)
    (hruns : job.runs = .ok runs) (hretained : Retained options job combination)
    (hsteps : steps options.target ⟨InputTable.ofRoot workflow.root, combination⟩ runs = .ok fragments)
    (hline : line ∈ fragments.flatten) (hfeed : HasLineFeed line) :
    ∃ text, Carries workflow options (.step, line) text ∧ HasLineFeed text := by
  obtain ⟨fragment, hfragment, hmem⟩ := List.mem_flatten.mp hline
  obtain ⟨run, hrun, lines, hlines, rfl⟩ := exists_run_of_mem_steps hsteps hfragment
  obtain ⟨source, hsource, hpart⟩ := Fragment.exists_infix_of_mem_trimBlock hmem (by rintro rfl; cases hfeed)
  have hfeedSource : HasLineFeed source := hpart.subset hfeed
  obtain ⟨raw, hraw, before, after, hok⟩ :=
    Fragment.exists_line_of_mem_lines hlines hsource (by rintro rfl; cases hfeedSource)
  obtain ⟨site, value, hvalue, hcarried⟩ := Line.lineFeed_of_becomes (Line.transform_eq_ok_iff.mp hok)
    (Fragment.of_mem_physicalLines hraw).1 hfeedSource
  exact ⟨value, .placed h hruns hretained hrun hraw hok hpart site hvalue, hcarried⟩

theorem exists_carries_of_repeats {marked : Marked} {texts : List String}
    (h : Repeats workflow options marked texts) (hfeed : HasLineFeed marked.2) :
    ∃ text, Carries workflow options marked text ∧ HasLineFeed text := by
  obtain ⟨origin, line⟩ := marked
  cases origin with
  | frame =>
    obtain ⟨text, htext, hcarried⟩ := (hasLineFeed_iff_of_repeats h).mp hfeed
    exact ⟨text, .repeated h htext, hcarried⟩
  | step =>
    cases h with
    | step hjob hruns hretained hsteps hline =>
      exact exists_carries_of_step hjob hruns hretained hsteps hline hfeed

theorem readLines_eq_iff (script : Script) (hne : script.lines ≠ []) :
    script.readLines = script.lines.map String.toList ↔
      ∀ line ∈ script.lines, ¬ script.options.target.lineEnding.toList <:+: line.toList := by
  obtain ⟨first, tail, hending, hfirst⟩ :
      ∃ first tail, script.options.target.lineEnding.toList = first :: tail ∧ first ∉ tail := by
    cases script.options.target with
    | shell => exact ⟨'\n', [], rfl, by decide⟩
    | batch => exact ⟨'\r', ['\n'], rfl, by decide⟩
  rw [readLines, body, String.toList_intercalate, hending,
    Text.cutAt_intercalate_iff hfirst (by simpa using hne), List.forall_mem_map]

theorem lineFeed_of_lineEnding {target : Target} {line : String}
    (h : target.lineEnding.toList <:+: line.toList) : HasLineFeed line := by
  have hmem : '\n' ∈ target.lineEnding.toList := by cases target <;> decide
  exact h.subset hmem

end Script

namespace Workflow

open Script

theorem lines_read_back {workflow : Workflow} {options : Options} {script : Script}
    (h : workflow.compile options = .ok script) (hne : script.lines ≠ []) :
    (script.readLines = script.lines.map String.toList ↔
      ∀ line ∈ script.lines, ¬ options.target.lineEnding.toList <:+: line.toList) ∧
    ((∀ line ∈ script.lines, ¬ HasLineFeed line) → script.readLines = script.lines.map String.toList) ∧
    script.lines = preamble options ++ script.content.map Prod.snd ++ footer options.target ∧
    (∀ line ∈ preamble options ++ footer options.target, ¬ HasLineFeed line) ∧
    ∀ marked ∈ script.content, HasLineFeed marked.2 →
      ∃ text, Carries workflow options marked text ∧ HasLineFeed text := by
  have hoptions : script.options = options := by
    obtain ⟨table, blocks, -, -, -, rfl⟩ := compile_eq_ok_iff.mp h
    rfl
  have hread := readLines_eq_iff script hne
  rw [hoptions] at hread
  refine ⟨hread, ?_, hoptions ▸ lines_eq_content script, fun line => not_hasLineFeed_around, ?_⟩
  · intro hfree
    exact hread.mpr fun line hline hending => hfree line hline (lineFeed_of_lineEnding hending)
  · intro marked hmarked hfeed
    obtain ⟨texts, hrepeats⟩ := repeats_of_compile_ok h marked hmarked
    exact exists_carries_of_repeats hrepeats hfeed

def notedJob : Document.Node :=
  .mapping [(.string "runs-on", .string "ubuntu-latest"),
    (.string "steps", .sequence [.mapping [(.string "run", .string "echo $\x7b\x7b inputs.note \x7d\x7d")]])]

def noted : Workflow :=
  ⟨.mapping [(.string "on", .mapping [(.string "workflow_call", .mapping [(.string "inputs", .mapping
      [(.string "note", .mapping [(.string "default", .string "one\ntwo")])])])]),
    (.string "jobs", .mapping [(.string "show", notedJob)])], rfl⟩

def notedContent : List Marked :=
  framed ["echo inputs:", "echo   note=one\ntwo", "", "", rule '=', "echo job 'show': matrix count=1",
    rule '=', "", "", rule '-', "echo show: no matrix", rule '-', ""] ++ [(.step, "echo one\ntwo")]

theorem compile_noted : ∃ script, noted.compile (.forTarget .shell) = .ok script ∧
    script.content = notedContent ∧ script.lines = ["set -e", ""] ++ notedContent.map Prod.snd := by
  have hcontent : (noted.compile (.forTarget .shell)).map (fun script => (script.content, script.lines)) =
      .ok (notedContent, ["set -e", ""] ++ notedContent.map Prod.snd) := by
    decide +kernel
  obtain ⟨script, hscript, heq⟩ := map_eq_ok_iff.mp hcontent
  exact ⟨script, hscript, congrArg Prod.fst heq, congrArg Prod.snd heq⟩

theorem carried_of_noted : ∃ script, noted.compile (.forTarget .shell) = .ok script ∧ script.lines ≠ [] ∧
    (∀ marked ∈ [(.step, "echo one\ntwo"), (.frame, "echo   note=one\ntwo")], marked ∈ script.content ∧
      ∃ text, Carries noted (.forTarget .shell) marked text ∧ HasLineFeed text) ∧
    script.readLines ≠ script.lines.map String.toList := by
  obtain ⟨script, hscript, hcontent, hlines⟩ := compile_noted
  have hne : script.lines ≠ [] := by
    rw [hlines]
    exact List.cons_ne_nil _ _
  obtain ⟨hread, -, -, -, hcarries⟩ := lines_read_back hscript hne
  refine ⟨script, hscript, hne, ?_, ?_⟩
  · rw [hcontent] at hcarries ⊢
    intro marked hmarked
    have hchosen : marked ∈ notedContent ∧ HasLineFeed marked.2 := by
      revert marked
      decide
    exact ⟨hchosen.1, hcarries marked hchosen.1 hchosen.2⟩
  · intro hsame
    refine hread.mp hsame "echo one\ntwo" ?_ ⟨"echo one".toList, "two".toList, rfl⟩
    rw [hlines]
    simp [notedContent]

theorem lines_split_by_value : ∃ script, noted.compile (.forTarget .shell) = .ok script ∧
    script.lines ≠ [] ∧ (∃ line ∈ script.lines, '\n' ∈ line.toList) ∧
    script.readLines ≠ script.lines.map String.toList := by
  obtain ⟨script, hscript, -, hlines⟩ := compile_noted
  have hne : script.lines ≠ [] := by
    rw [hlines]
    exact List.cons_ne_nil _ _
  have htarget : script.options.target = .shell := by
    obtain ⟨table, blocks, -, -, -, rfl⟩ := compile_eq_ok_iff.mp hscript
    rfl
  have hmem : "echo   note=one\ntwo" ∈ script.lines := by
    rw [hlines]
    simp [notedContent, framed]
  refine ⟨script, hscript, hne, ⟨_, hmem, by decide⟩, ?_⟩
  rw [Ne, readLines_eq_iff script hne, htarget]
  intro hfree
  exact hfree _ hmem ⟨"echo   note=one".toList, "two".toList, rfl⟩

end Workflow

end WorkflowScript
