import WorkflowScript.Proofs.Line.Targets
import WorkflowScript.Proofs.Script.Jobs
import WorkflowScript.Proofs.Script.Sections

namespace WorkflowScript

open Outcome

namespace Fragment

def SameShape (line line' : String) : Prop :=
  isBlankLine line = isBlankLine line' ∧ (isBlankLine line = true → line = line')

theorem SameShape.trimmed {line line' : String} {trim : List Char → List Char}
    (htrim : ∀ text, Text.allBlank (trim text) = Text.allBlank text) (h : SameShape line line') :
    SameShape (.ofList (trim line.toList)) (.ofList (trim line'.toList)) := by
  have hblank : ∀ text : String, isBlankLine (.ofList (trim text.toList)) = isBlankLine text := by
    intro text
    rw [isBlankLine, String.toList_ofList, htrim, isBlankLine]
  refine ⟨by rw [hblank, hblank, h.1], ?_⟩
  intro hline
  rw [hblank] at hline
  rw [h.2 hline]

variable {lines lines' : List String}

theorem sameShape_dropWhile (h : List.Forall₂ SameShape lines lines') :
    List.Forall₂ SameShape (lines.dropWhile isBlankLine) (lines'.dropWhile isBlankLine) := by
  induction h with
  | nil => exact .nil
  | @cons line line' rest rest' hline hrest ih =>
    rw [List.dropWhile_cons, List.dropWhile_cons, ← hline.1]
    split
    · exact ih
    · exact .cons hline hrest

theorem sameShape_dropBlankEnd (h : List.Forall₂ SameShape lines lines') :
    List.Forall₂ SameShape (dropBlankEnd lines) (dropBlankEnd lines') := by
  induction h with
  | nil => exact .nil
  | @cons line line' rest rest' hline _ ih =>
    rw [dropBlankEnd, dropBlankEnd]
    generalize dropBlankEnd rest = kept at ih ⊢
    generalize dropBlankEnd rest' = kept' at ih ⊢
    cases ih with
    | nil =>
      change List.Forall₂ SameShape (if _ then _ else _) (if _ then _ else _)
      rw [← hline.1]
      split
      · exact .nil
      · exact .cons hline .nil
    | cons hkept hrest => exact .cons hline (.cons hkept hrest)

theorem sameShape_trimLastLine (h : List.Forall₂ SameShape lines lines') :
    List.Forall₂ SameShape (trimLastLine lines) (trimLastLine lines') := by
  induction h with
  | nil => exact .nil
  | cons hline hrest ih =>
    cases hrest with
    | nil => exact .cons (hline.trimmed Text.allBlank_trimEnd) .nil
    | cons hnext hrest => exact .cons hline ih

theorem sameShape_trimBlock (h : List.Forall₂ SameShape lines lines') :
    List.Forall₂ SameShape (trimBlock lines) (trimBlock lines') := by
  have hkept := sameShape_dropBlankEnd (sameShape_dropWhile h)
  rw [trimBlock, trimBlock]
  generalize dropBlankEnd (lines.dropWhile isBlankLine) = kept at hkept ⊢
  generalize dropBlankEnd (lines'.dropWhile isBlankLine) = kept' at hkept ⊢
  cases hkept with
  | nil => exact .cons ⟨rfl, fun _ => rfl⟩ .nil
  | cons hline hrest =>
    exact sameShape_trimLastLine (.cons (hline.trimmed Text.allBlank_trimStart) hrest)

theorem sameShape_toLines {emitted emitted' : Line.Emitted} (h : Line.SameEmitted emitted emitted') :
    List.Forall₂ SameShape emitted.toLines emitted'.toLines := by
  cases h with
  | elided => exact .nil
  | blank => exact .cons ⟨rfl, fun _ => rfl⟩ .nil
  | @line text text' h h' =>
    have hshape : isBlankLine (.ofList text) = false := by rw [isBlankLine, String.toList_ofList, h]
    have hshape' : isBlankLine (.ofList text') = false := by rw [isBlankLine, String.toList_ofList, h']
    refine .cons ⟨hshape.trans hshape'.symm, ?_⟩ .nil
    intro hblank
    rw [hshape] at hblank
    cases hblank

theorem transformLines_alike (bindings : Bindings) (continuing continuing' : Line.Continuing)
    (texts : List (List Char)) :
    Alike SameCause (List.Forall₂ SameShape) (transformLines .shell bindings continuing texts)
      (transformLines .batch bindings continuing' texts) := by
  induction texts generalizing continuing continuing' with
  | nil => exact .ok .nil
  | cons text texts ih =>
    rw [transformLines, transformLines]
    refine (Line.transform_alike bindings continuing continuing' text).bind ?_
    rintro ⟨emitted, after⟩ ⟨emitted', after'⟩ hemitted
    refine (ih after after').bind ?_
    intro rest rest' hrest
    exact .ok (List.rel_append (sameShape_toLines hemitted) hrest)

end Fragment

namespace Script

inductive Origin where
  | frame
  | step
  deriving DecidableEq, Repr

abbrev Marked := Origin × String

def framed (lines : List String) : List Marked := lines.map (Prod.mk .frame)

def Body.origin : Body → Origin
  | .steps _ => .step
  | .unsupported _ => .frame

def Body.marked (body : Body) : List Marked := body.lines.map (Prod.mk body.origin)

def Section.marked (part : Section) : List Marked :=
  framed (Section.banner part.title) ++ part.body.marked

def JobBlock.marked (block : JobBlock) : List Marked :=
  framed (JobBlock.banner block.job block.count) ++ block.sections.flatMap Section.marked

def content (script : Script) : List Marked :=
  framed (inputLines script.inputs) ++ script.blocks.flatMap JobBlock.marked

inductive SameLine : Marked → Marked → Prop
  | frame (line : String) : SameLine (.frame, line) (.frame, line)
  | step {line line' : String} (h : Fragment.SameShape line line') :
      SameLine (.step, line) (.step, line')

theorem sameLine_framed (lines : List String) :
    List.Forall₂ SameLine (framed lines) (framed lines) := by
  rw [framed, List.forall₂_same]
  intro marked hmem
  obtain ⟨line, -, rfl⟩ := List.mem_map.mp hmem
  exact .frame line

section Lines

theorem map_snd_mk (origin : Origin) (lines : List String) :
    (lines.map (Prod.mk origin)).map Prod.snd = lines := by
  rw [List.map_map]
  exact List.map_id _

theorem map_snd_section (part : Section) : part.marked.map Prod.snd = part.lines := by
  rw [Section.marked, Section.lines, List.map_append, framed, map_snd_mk, Body.marked, map_snd_mk]

theorem map_snd_block (block : JobBlock) : block.marked.map Prod.snd = block.lines := by
  rw [JobBlock.marked, JobBlock.lines, List.map_append, framed, map_snd_mk, List.map_flatMap]
  simp only [map_snd_section]

theorem lines_eq_content (script : Script) :
    script.lines = preamble script.options ++ script.content.map Prod.snd ++
      footer script.options.target := by
  rw [content, List.map_append, framed, map_snd_mk, List.map_flatMap]
  simp only [map_snd_block]
  rw [Script.lines]
  simp only [List.append_assoc]

end Lines

section Agreement

variable {inputs : InputTable} {job : Job}

theorem steps_alike (bindings : Bindings) (runs : List String) :
    Alike SameCause (List.Forall₂ (List.Forall₂ Fragment.SameShape)) (steps .shell bindings runs)
      (steps .batch bindings runs) := by
  rw [steps_eq, steps_eq]
  refine Alike.mapM fun run _ => ?_
  rw [stepLines, stepLines]
  refine (Fragment.transformLines_alike bindings false false _).map ?_
  intro lines lines' hlines
  exact Fragment.sameShape_trimBlock hlines

theorem sectionFor_alike (runs : List String) (combination : Combination) :
    Alike SameCause (fun part part' => List.Forall₂ SameLine part.marked part'.marked)
      (sectionFor .shell inputs job runs combination)
      (sectionFor .batch inputs job runs combination) := by
  rw [sectionFor_eq, sectionFor_eq]
  refine (Alike.of_eq SameCause.same).bind ?_
  rintro label _ rfl
  by_cases hsupported : Runner.isSupported label = true
  · rw [if_pos hsupported, if_pos hsupported]
    refine (steps_alike ⟨inputs, combination⟩ runs).map ?_
    intro fragments fragments' hfragments
    refine List.rel_append (sameLine_framed _) ?_
    exact List.rel_map (fun line line' hline => SameLine.step hline) (List.rel_flatten hfragments)
  · rw [if_neg hsupported, if_neg hsupported]
    refine .ok (List.rel_append (sameLine_framed _) ?_)
    exact .cons (.frame _) .nil

theorem blockFor_alike (onceOnly failFast : Bool) :
    Alike SameCause
      (fun block block' => List.Forall₂ SameLine (block.toList.flatMap JobBlock.marked)
        (block'.toList.flatMap JobBlock.marked))
      (blockFor ⟨.shell, onceOnly, failFast⟩ inputs job)
      (blockFor ⟨.batch, onceOnly, failFast⟩ inputs job) := by
  rw [blockFor_eq, blockFor_eq]
  refine (Alike.of_eq SameCause.same).bind ?_
  rintro combinations _ rfl
  refine (Alike.of_eq SameCause.same).bind ?_
  rintro runs _ rfl
  by_cases hempty : runs.isEmpty = true
  · rw [if_pos hempty, if_pos hempty]
    exact .ok .nil
  · rw [if_neg hempty, if_neg hempty, sectionsFor_eq, sectionsFor_eq]
    refine (Alike.mapM fun combination _ => sectionFor_alike runs combination).map ?_
    intro parts parts' hparts
    simp only [Option.toList_some, List.flatMap_singleton]
    exact List.rel_append (sameLine_framed _) (List.rel_flatMap hparts fun _ _ hpart => hpart)

theorem blocksFor_alike (onceOnly failFast : Bool) (jobs : List Job) :
    Alike SameCause
      (fun blocks blocks' => List.Forall₂ SameLine (blocks.flatMap JobBlock.marked)
        (blocks'.flatMap JobBlock.marked))
      (blocksFor ⟨.shell, onceOnly, failFast⟩ inputs jobs)
      (blocksFor ⟨.batch, onceOnly, failFast⟩ inputs jobs) := by
  rw [blocksFor_eq, blocksFor_eq]
  refine (Alike.mapM fun job _ => blockFor_alike onceOnly failFast).map ?_
  intro blocks blocks' hblocks
  rw [List.flatMap_assoc, List.flatMap_assoc]
  exact List.rel_flatMap hblocks fun _ _ hblock => hblock

end Agreement

end Script

namespace Workflow

theorem compile_alike (workflow : Workflow) (onceOnly failFast : Bool) :
    Alike SameCause
      (fun script script' => script.options = ⟨.shell, onceOnly, failFast⟩ ∧
        script'.options = ⟨.batch, onceOnly, failFast⟩ ∧
        List.Forall₂ Script.SameLine script.content script'.content)
      (workflow.compile ⟨.shell, onceOnly, failFast⟩)
      (workflow.compile ⟨.batch, onceOnly, failFast⟩) := by
  rw [compile, compile]
  refine (Alike.of_eq SameCause.same).bind ?_
  rintro table _ rfl
  by_cases hempty : table.isEmpty = true
  · rw [if_pos hempty, if_pos hempty]
    exact .error (.same _)
  · rw [if_neg hempty, if_neg hempty, Script.assemble, Script.assemble]
    refine (Script.blocksFor_alike onceOnly failFast table.jobs).map ?_
    intro blocks blocks' hblocks
    exact ⟨rfl, rfl, List.rel_append (Script.sameLine_framed _) hblocks⟩

theorem targets_agree (workflow : Workflow) (onceOnly failFast : Bool) :
    ((∃ script, workflow.compile ⟨.shell, onceOnly, failFast⟩ = .ok script) ↔
      ∃ script, workflow.compile ⟨.batch, onceOnly, failFast⟩ = .ok script) ∧
    (∀ e, workflow.compile ⟨.shell, onceOnly, failFast⟩ = .error e →
      ∃ e', workflow.compile ⟨.batch, onceOnly, failFast⟩ = .error e' ∧ SameCause e e') ∧
    ∀ script, workflow.compile ⟨.shell, onceOnly, failFast⟩ = .ok script →
      ∃ script', workflow.compile ⟨.batch, onceOnly, failFast⟩ = .ok script' ∧
        script.lines = Script.preamble ⟨.shell, onceOnly, failFast⟩ ++ script.content.map Prod.snd ∧
        script'.lines = Script.preamble ⟨.batch, onceOnly, failFast⟩ ++
          script'.content.map Prod.snd ++ Script.footer .batch ∧
        List.Forall₂ Script.SameLine script.content script'.content := by
  have halike := compile_alike workflow onceOnly failFast
  refine ⟨halike.ok_iff, ?_, ?_⟩
  · intro e he
    rw [he] at halike
    generalize workflow.compile ⟨.batch, onceOnly, failFast⟩ = outcome at halike ⊢
    cases halike with
    | error hcause => exact ⟨_, rfl, hcause⟩
  · intro script hscript
    rw [hscript] at halike
    generalize workflow.compile ⟨.batch, onceOnly, failFast⟩ = outcome at halike ⊢
    cases halike with
    | @ok _ script' h =>
      obtain ⟨hshell, hbatch, hcontent⟩ := h
      refine ⟨script', rfl, ?_, ?_, hcontent⟩
      · rw [Script.lines_eq_content, hshell]
        exact List.append_nil _
      · rw [Script.lines_eq_content, hbatch]

section Pausing

def pausing : Job :=
  ⟨"wait", .mapping [(.string "runs-on", .string "ubuntu-latest"), (.string "steps", .sequence
    [.mapping [(.string "run", .string "sleep 5\necho $1 \\\n\n  twice\n> $GITHUB_STEP_SUMMARY\nend")]])]⟩

def unnumbered : Job :=
  ⟨"home", .mapping [(.string "runs-on", .string "ubuntu-latest"), (.string "steps", .sequence
    [.mapping [(.string "run", .string "echo $HOME")]])]⟩

theorem targets_agree_pausing :
    (∃ script script', (ofJobs [pausing]).compile ⟨.shell, false, true⟩ = .ok script ∧
      (ofJobs [pausing]).compile ⟨.batch, false, true⟩ = .ok script' ∧
      List.Forall₂ Script.SameLine script.content script'.content) ∧
    ∃ e e', (ofJobs [unnumbered]).compile ⟨.shell, false, true⟩ = .error e ∧
      (ofJobs [unnumbered]).compile ⟨.batch, false, true⟩ = .error e' ∧ SameCause e e' := by
  constructor
  · obtain ⟨script, hscript⟩ := exists_of_isOk (x := (ofJobs [pausing]).compile ⟨.shell, false, true⟩)
      (by decide +kernel)
    obtain ⟨script', hscript', -, -, hcontent⟩ :=
      (targets_agree (ofJobs [pausing]) false true).2.2 script hscript
    exact ⟨script, script', hscript, hscript', hcontent⟩
  · have hfails : ((ofJobs [unnumbered]).compile ⟨.shell, false, true⟩).isOk = false := by
      decide +kernel
    rcases exists_ok_or_error ((ofJobs [unnumbered]).compile ⟨.shell, false, true⟩) with
      ⟨script, hscript⟩ | ⟨e, he⟩
    · rw [hscript] at hfails
      cases hfails
    · obtain ⟨e', he', hcause⟩ := (targets_agree (ofJobs [unnumbered]) false true).2.1 e he
      exact ⟨e, e', he, he', hcause⟩

end Pausing

end Workflow

end WorkflowScript
