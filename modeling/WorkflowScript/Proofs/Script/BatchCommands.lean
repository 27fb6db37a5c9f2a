import WorkflowScript.Proofs.Fragment.Commands
import WorkflowScript.Proofs.Script.Sources

namespace WorkflowScript

open Outcome Script Fragment

theorem Fragment.commands_guarded_or_open :
    (∀ bindings text lines, transform .batch bindings text = .ok lines → GuardedOrOpen (shown lines)) ∧
    ∀ (workflow : Workflow) (options : Options) (script : Script), options.target = .batch →
      workflow.compile options = .ok script → ∀ block ∈ script.blocks, ∀ part ∈ block.sections,
      ∀ fragments, part.body = .steps fragments → ∀ fragment ∈ fragments,
        Compact fragment ∧ GuardedOrOpen (shown fragment) := by
  refine ⟨fun bindings text lines => guardedOrOpen_of_transform, ?_⟩
  intro workflow options script htarget hscript block hblock part hpart fragments hbody fragment hmem
  obtain ⟨bindings, run, lines, hlines, rfl⟩ :=
    exists_transform_of_mem_body hscript hblock hpart hbody hmem
  rw [htarget] at hlines
  obtain ⟨after, hchain⟩ := exists_chain_of_transform hlines
  have htight := tight_of_chain hchain
  rw [htight.shown_trimBlock]
  exact ⟨htight.compact_trimBlock, guardedOrOpen_of_transform hlines⟩

namespace Workflow

def continuedText : String := "copy $1 \\\n\n  # the target\n  backup\necho done"

def continuedJob : Job :=
  ⟨"copy", .mapping [(.string "runs-on", .string "ubuntu-latest"),
    (.string "steps", .sequence [.mapping [(.string "run", .string continuedText)]])]⟩

def continuedLines : List String :=
  ["CALL copy %1 ^", "       backup  || CALL :ERROR", "CALL echo done  || CALL :ERROR"]

theorem guarded_of_continued : ∃ script,
    transform .batch noBindings continuedText = .ok continuedLines ∧ GuardedOrOpen (shown continuedLines) ∧
    (ofJobs [continuedJob]).compile (.forTarget .batch) = .ok script ∧
    script.blocks = [⟨"copy", 1, [⟨"copy: no matrix", .steps [continuedLines]⟩]⟩] ∧
    Compact continuedLines := by
  have hlines : transform .batch noBindings continuedText = .ok continuedLines := by decide +kernel
  have hblocks : ((ofJobs [continuedJob]).compile (.forTarget .batch)).map Script.blocks =
      .ok [⟨"copy", 1, [⟨"copy: no matrix", .steps [continuedLines]⟩]⟩] := by
    decide +kernel
  obtain ⟨script, hscript, hblocks⟩ := map_eq_ok_iff.mp hblocks
  obtain ⟨hfragment, hall⟩ := commands_guarded_or_open
  obtain ⟨hcompact, -⟩ := hall _ _ script rfl hscript _ (by rw [hblocks]; exact List.mem_cons_self) _
    List.mem_cons_self _ rfl continuedLines List.mem_cons_self
  exact ⟨script, hlines, hfragment _ _ _ hlines, hscript, hblocks, hcompact⟩

def danglingJob : Job :=
  ⟨"build", .mapping [(.string "runs-on", .string "ubuntu-latest"),
    (.string "steps", .sequence [.mapping [(.string "run", .string "make all \\")],
      .mapping [(.string "run", .string "make test")]])]⟩

theorem command_left_open : transform .batch noBindings "make all \\" = .ok ["CALL make all ^"] ∧
    ¬ Line.errorJump <:+ "CALL make all ^".toList ∧
    ∃ script, (ofJobs [danglingJob]).compile (.forTarget .batch) = .ok script ∧
      ["CALL make all ^", "CALL make test  || CALL :ERROR"] <:+: script.lines := by
  refine ⟨by decide +kernel, by decide, ?_⟩
  have hlines : ((ofJobs [danglingJob]).compile (.forTarget .batch)).map Script.lines = .ok
      (["@ECHO OFF", "", "", "", rule '=', "echo job 'build': matrix count=1", rule '=', "", "", rule '-',
        "echo build: no matrix", rule '-', ""] ++
        ["CALL make all ^", "CALL make test  || CALL :ERROR"] ++ footer .batch) := by
    decide +kernel
  obtain ⟨script, hscript, hlines⟩ := map_eq_ok_iff.mp hlines
  exact ⟨script, hscript, _, _, hlines.symm⟩

end Workflow

end WorkflowScript
