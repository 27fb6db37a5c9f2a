import WorkflowScript.Proofs.Fragment.Append
import WorkflowScript.Proofs.Line.LineFeed
import WorkflowScript.Proofs.Line.Plain
import WorkflowScript.Proofs.Script.Success
import WorkflowScript.Proofs.Template.Substitution
import WorkflowScript.Proofs.Text.Cut
import WorkflowScript.Proofs.Workspace.Starter
import WorkflowScript.Proofs.Yaml.Ordinary
import WorkflowScript.Workspace.Load

namespace WorkflowScript

open Document Outcome

namespace Line

theorem not_denotes_noBindings {o : Text.Occurrence} {value : String} :
    ¬ Placeholder.Denotes Fragment.noBindings o value := by
  intro h
  cases h with
  | input hscope hdeclared => exact absurd hdeclared List.not_mem_nil
  | axis hscope haxis => exact absurd haxis List.not_mem_nil

theorem lineSound_noBindings_iff {raw : List Char} :
    LineSound stripComment Fragment.noBindings raw ↔
      (isElided (stripComment raw) = false →
        IsEmpty (Placeholder.Site (stripComment raw)) ∧ Numbered (stripSummary (stripComment raw))) := by
  refine forall_congr' fun _ => ?_
  have hbound : Placeholder.AllBound Fragment.noBindings (stripComment raw) ↔
      IsEmpty (Placeholder.Site (stripComment raw)) := by
    rw [← Placeholder.exists_resolve_iff, Placeholder.exists_resolve_iff_denotes]
    exact ⟨fun h => ⟨fun site => not_denotes_noBindings (h site).choose_spec⟩,
      fun h site => h.elim site⟩
  rw [hbound]
  refine and_congr_right fun hempty => ?_
  have hresolve : Placeholder.resolve Fragment.noBindings (stripComment raw) = .ok (stripComment raw) :=
    Placeholder.resolve_of_isEmpty hempty
  rw [← (Placeholder.resolve_eq_ok_iff.mp hresolve).2]

end Line

namespace Creation.Starter

section Compile

variable {job : List Char} {node : Node} {name : String} {target : Target}

theorem sectionFor_body (target : Target) (name : String) (job : List Char) :
    Script.sectionFor target .empty ⟨name, bodyNode job⟩ [echoText job] .none =
      (Script.steps target Fragment.noBindings [echoText job]).map fun fragments =>
        ⟨Script.sectionTitle ⟨name, bodyNode job⟩ .none, .steps fragments⟩ := by
  have hsupported : Runner.isSupported "ubuntu-latest" = true := by decide +kernel
  have hlabel : Runner.resolve ⟨name, bodyNode job⟩ Fragment.noBindings = .ok "ubuntu-latest" := by
    change Runner.resolveLabel Fragment.noBindings "ubuntu-latest" = _
    decide +kernel
  change Runner.resolve ⟨name, bodyNode job⟩ ⟨.empty, .none⟩ = _ at hlabel
  rw [Script.sectionFor_eq, hlabel]
  simp only [bind, Except.bind, hsupported, if_true]
  rfl

theorem blockFor_body (target : Target) (name : String) (job : List Char) :
    Script.blockFor (.forTarget target) .empty ⟨name, bodyNode job⟩ =
      (Script.steps target Fragment.noBindings [echoText job]).map fun fragments =>
        some ⟨name, 1, [⟨Script.sectionTitle ⟨name, bodyNode job⟩ .none, .steps fragments⟩]⟩ := by
  have hexpand : Matrix.expand ⟨name, bodyNode job⟩ = .ok [.none] := rfl
  have hruns : Job.runs ⟨name, bodyNode job⟩ = .ok [echoText job] := rfl
  rw [Script.blockFor_eq, hexpand, hruns]
  change (Script.sectionsFor target .empty ⟨name, bodyNode job⟩ [echoText job] [.none]).map _ = _
  rw [Script.sectionsFor_eq, List.mapM_cons, List.mapM_nil, sectionFor_body]
  cases Script.steps target Fragment.noBindings [echoText job] <;> rfl

def workflow (job : List Char) (node : Node) : Workflow := ⟨rootNode job node, rfl⟩

theorem entries_jobs (job : List Char) (node : Node) :
    ((rootNode job node).child "jobs").bind Node.entries =
      some (node.scalarText.map (·, bodyNode job)).toList := by
  change some ([(node, bodyNode job)].filterMap Node.keyed?) = _
  cases h : node.scalarText with
  | none => simp [Node.keyed?, h]
  | some name => simp [Node.keyed?, h]

theorem ofRoot_rootNode_of_scalar (h : node.scalarText = some name) :
    JobTable.ofRoot (rootNode job node) = .ok (NameTable.empty.insert name ⟨name, bodyNode job⟩) := by
  rw [JobTable.ofRoot, entries_jobs, h]
  rfl

theorem ofRoot_rootNode_of_none (h : node.scalarText = none) :
    JobTable.ofRoot (rootNode job node) = .ok .empty := by
  rw [JobTable.ofRoot, entries_jobs, h]
  rfl

theorem compile_of_scalar (h : node.scalarText = some name) (target : Target) :
    (workflow job node).compile (.forTarget target) =
      (Script.steps target Fragment.noBindings [echoText job]).map fun fragments =>
        ⟨.forTarget target, .empty,
          [⟨name, 1, [⟨Script.sectionTitle ⟨name, bodyNode job⟩ .none, .steps fragments⟩]⟩]⟩ := by
  have hroot : JobTable.ofRoot (workflow job node).root =
      .ok (NameTable.empty.insert name ⟨name, bodyNode job⟩) := ofRoot_rootNode_of_scalar h
  rw [Workflow.compile_eq _ hroot rfl]
  change ([(⟨name, bodyNode job⟩ : Job)].mapM (Script.blockFor (.forTarget target) .empty)).map _ = _
  rw [List.mapM_cons, List.mapM_nil, blockFor_body]
  cases Script.steps target Fragment.noBindings [echoText job] <;> rfl

theorem compile_of_none (h : node.scalarText = none) (options : Script.Options) :
    (workflow job node).compile options = .error .noJobs := by
  rw [Workflow.compile]
  change (JobTable.ofRoot (rootNode job node) >>= _) = _
  rw [ofRoot_rootNode_of_none h]
  rfl

end Compile

section Step

variable {job : List Char}

def echoLine (job : List Char) : List Char := Line.stripComment ("echo Hello from ".toList ++ job)

theorem exists_cons_echoLine (job : List Char) : ∃ rest, echoLine job = 'e' :: rest := by
  obtain ⟨rest, hrest⟩ : ∃ rest, Line.beforeComment false ("echo Hello from ".toList ++ job) = 'e' :: rest :=
    ⟨_, rfl⟩
  rw [echoLine, Line.stripComment, hrest, Text.trimEnd]
  cases Text.trimEnd rest with
  | nil => exact ⟨[], rfl⟩
  | cons d kept => exact ⟨_, rfl⟩

theorem physicalLines_line {line : List Char} (hfeed : '\n' ∉ line) (hreturn : '\r' ∉ line) :
    Fragment.physicalLines (line ++ ['\n']) = [line, []] := by
  have hlast : line.getLast? ≠ some '\r' := fun h => hreturn (List.mem_of_getLast? h)
  have hfirst : Fragment.physicalLines line = [line] := by
    rw [Fragment.physicalLines, List.splitOn_eq_singleton hfeed, List.map_singleton, if_neg hlast]
  rw [Fragment.physicalLines_append, hfirst]
  rfl

theorem physicalLines_echoText (hfeed : '\n' ∉ job) (hreturn : '\r' ∉ job) :
    Fragment.physicalLines (echoText job).toList = ["echo Hello from ".toList ++ job, []] :=
  (congrArg Fragment.physicalLines String.toList_ofList).trans
    (physicalLines_line (List.not_mem_append (by decide) hfeed) (List.not_mem_append (by decide) hreturn))

theorem exists_steps_echoText_iff (hfeed : '\n' ∉ job) (hreturn : '\r' ∉ job) (target : Target) :
    (∃ fragments, Script.steps target Fragment.noBindings [echoText job] = .ok fragments) ↔
      IsEmpty (Placeholder.Site (echoLine job)) ∧ Line.Numbered (Line.stripSummary (echoLine job)) := by
  rw [exists_steps_iff, List.forall_mem_singleton, physicalLines_echoText hfeed hreturn]
  obtain ⟨rest, hecho⟩ := exists_cons_echoLine job
  have hkept : Line.isElided (echoLine job) = false := by rw [hecho]; rfl
  have hend : LineSound Line.stripComment Fragment.noBindings [] := nofun
  rw [List.forall_mem_cons, List.forall_mem_singleton, Line.lineSound_noBindings_iff]
  change ((Line.isElided (echoLine job) = false → _) ∧ _) ↔ _
  simp only [hkept, forall_const]
  exact and_iff_left hend

end Step

variable {job : String}

def NamesItself (job : String) : Prop :=
  ∃ node, Yaml.Meaning.plain job.toList = .ok node ∧ node.scalarText = some job

structure Prints (job : List Char) : Prop where
  no_placeholder : IsEmpty (Placeholder.Site (echoLine job))
  numbered : Line.Numbered (Line.stripSummary (echoLine job))

theorem Prints.of_notMem {job : List Char} (h : '$' ∉ job) : Prints job := by
  have hecho : '$' ∉ echoLine job := by
    intro hmem
    rcases List.mem_append.mp (Line.mem_of_mem_stripComment hmem) with hfixed | hjob
    · exact absurd hfixed (by decide)
    · exact h hjob
  exact ⟨Line.isEmpty_site_of_notMem hecho,
    Line.numbered_of_notMem fun hmem => hecho (Line.mem_of_mem_stripSummary hmem)⟩

theorem namesItself_of_isOrdinary (h : Yaml.IsOrdinary job.toList) : NamesItself job :=
  ⟨.string job, by rw [h.plain_eq, String.ofList_toList], rfl⟩

theorem prints_of_isOrdinary (h : Yaml.IsOrdinary job.toList) : Prints job.toList :=
  .of_notMem fun hmem => by cases h.word '$' hmem

theorem compile_eq_ok_iff {node : Node} (hfeed : '\n' ∉ job.toList) (hreturn : '\r' ∉ job.toList)
    (target : Target) :
    (∃ script, (workflow job.toList node).compile (.forTarget target) = .ok script ∧
        script.blocks.map Script.JobBlock.job = [job]) ↔
      node.scalarText = some job ∧ Prints job.toList := by
  have hsteps := exists_steps_echoText_iff hfeed hreturn target
  cases hnode : node.scalarText with
  | none => simp [compile_of_none hnode]
  | some name =>
    rw [compile_of_scalar hnode]
    constructor
    · rintro ⟨script, hscript, hjob⟩
      obtain ⟨fragments, hfragments, rfl⟩ := map_eq_ok_iff.mp hscript
      obtain ⟨hempty, hnumbered⟩ := hsteps.mp ⟨fragments, hfragments⟩
      obtain rfl : name = job := by simpa using hjob
      exact ⟨rfl, hempty, hnumbered⟩
    · rintro ⟨hname, hempty, hnumbered⟩
      obtain ⟨fragments, hfragments⟩ := hsteps.mpr ⟨hempty, hnumbered⟩
      cases hname
      exact ⟨_, map_eq_ok_iff.mpr ⟨fragments, hfragments, rfl⟩, rfl⟩

open Yaml Lexer

variable (h : Unquoted job.toList) (hreach : Text.bytes job.toList ≤ keyReach) (hprinted : Printed job.toList)
include h hreach hprinted

theorem ofText_starter_eq_ok_iff {found : Workflow} : Workflow.ofText (starter job) = .ok found ↔
    ∃ node, Meaning.plain job.toList = .ok node ∧ found = workflow job.toList node := by
  rw [Workflow.ofText, read_starter h hreach hprinted]
  cases Meaning.plain job.toList with
  | error fault => simp [Except.map]
  | ok node =>
    change Except.ok (workflow job.toList node) = .ok found ↔ _
    simp [eq_comm]

theorem compile_starter_iff (target : Target) :
    (∃ found script, Workflow.ofText (starter job) = .ok found ∧
        found.compile (.forTarget target) = .ok script ∧ script.blocks.map Script.JobBlock.job = [job]) ↔
      NamesItself job ∧ Prints job.toList := by
  have hbreaks := h.words.not_isBreak
  have hfeed : '\n' ∉ job.toList := fun hmem => absurd (hbreaks _ hmem) (by decide)
  have hreturn : '\r' ∉ job.toList := fun hmem => (hprinted _ hmem).2.1 rfl
  simp only [ofText_starter_eq_ok_iff h hreach hprinted]
  constructor
  · rintro ⟨_, script, ⟨node, hplain, rfl⟩, hscript⟩
    obtain ⟨hname, hprints⟩ := (compile_eq_ok_iff hfeed hreturn target).mp ⟨script, hscript⟩
    exact ⟨⟨node, hplain, hname⟩, hprints⟩
  · rintro ⟨⟨node, hplain, hname⟩, hprints⟩
    obtain ⟨script, hscript⟩ := (compile_eq_ok_iff hfeed hreturn target).mpr ⟨hname, hprints⟩
    exact ⟨_, script, ⟨node, hplain, rfl⟩, hscript⟩

end Creation.Starter

end WorkflowScript
