import WorkflowScript.Proofs.Command.Spoken
import WorkflowScript.Proofs.Command.Starter
import WorkflowScript.Proofs.Fragment.Trim
import WorkflowScript.Proofs.Workspace.Resolution

namespace WorkflowScript

open Creation

namespace Creation.Starter

variable {job : String}

def title (job : String) : String := job ++ ": " ++ "no matrix"

def greeting (job : String) : String := "Hello from " ++ job

section Words

variable (h : Yaml.IsOrdinary job.toList)
include h

theorem isPlainWord_job : Shell.IsPlainWord job.toList := by
  obtain ⟨c, rest, htext, -⟩ := h.exists_cons
  refine ⟨htext ▸ List.cons_ne_nil c rest, fun d hd => ?_⟩
  have hword := h.word d hd
  simp only [Yaml.isWordChar, Bool.or_eq_true, beq_iff_eq] at hword
  rcases hword with (halnum | rfl) | rfl
  · exact Shell.isPlain_of_isAlphanum halnum
  · decide
  · decide

theorem isPlainText_title : Shell.IsPlainText (title job).toList := by
  have hname := (isPlainWord_job h).append (List.all_eq_true.mp (show [':'].all Shell.isPlain = true from rfl))
  refine ⟨[job.toList ++ [':'], "no".toList, "matrix".toList], List.cons_ne_nil _ _, ⟨?_, ?_⟩, ?_⟩
  · simp only [List.forall_mem_cons]
    exact ⟨hname, .of_all rfl rfl, .of_all rfl rfl, List.forall_mem_nil _⟩
  · rintro _ ⟨⟩
    obtain ⟨c, rest, htext, hc⟩ := h.exists_cons
    refine Shell.isEchoOption_of_head? ?_
    rw [htext]
    rintro ⟨⟩
    cases hc
  · simp [title]

theorem isPlainText_greeting : Shell.IsPlainText (greeting job).toList := by
  refine ⟨["Hello".toList, "from".toList, job.toList], List.cons_ne_nil _ _, ⟨?_, ?_⟩, ?_⟩
  · simp only [List.forall_mem_cons]
    exact ⟨.of_all rfl rfl, .of_all rfl rfl, isPlainWord_job h, List.forall_mem_nil _⟩
  · rintro _ ⟨⟩
    rfl
  · simp [greeting]

end Words

section Compile

def greetingLine (job : String) : List Char := "echo Hello from ".toList ++ job.toList

def part (job : String) : Script.Section := ⟨title job, .steps [[.ofList (greetingLine job)]]⟩

def block (job : String) : Script.JobBlock := ⟨job, 1, [part job]⟩

def script (job : String) : Script := ⟨.forTarget .shell, .empty, [block job]⟩

def printed (job : String) : List Char :=
  Script.bordered '=' (Script.jobTitle job 1) ++ (part job).printed ((greeting job).toList ++ ['\n'])

variable (h : Yaml.IsOrdinary job.toList)
include h

theorem exists_concat_job : ∃ front last, job.toList = front ++ [last] ∧ Text.isBlank last = false := by
  obtain ⟨c, rest, htext, -⟩ := h.exists_cons
  rcases List.eq_nil_or_concat job.toList with hnil | ⟨front, last, hconcat⟩
  · rw [htext] at hnil
    cases hnil
  · rw [List.concat_eq_append] at hconcat
    have hmem : last ∈ job.toList := hconcat ▸ List.mem_concat_self
    exact ⟨front, last, hconcat, Placeholder.isBlank_of_isNameChar (h.word last hmem)⟩

theorem trimEnd_append_job (front : List Char) : Text.trimEnd (front ++ job.toList) = front ++ job.toList := by
  obtain ⟨middle, last, hjob, hlast⟩ := exists_concat_job h
  rw [hjob, ← List.append_assoc]
  exact Text.trimEnd_concat hlast _

theorem trimEnd_greetingLine : Text.trimEnd (greetingLine job) = greetingLine job := trimEnd_append_job h _

theorem plain_greetingLine : Line.Plain (greetingLine job) where
  comment := List.not_mem_append (by decide) fun hmem => by cases h.word '#' hmem
  dollar := List.not_mem_append (by decide) fun hmem => by cases h.word '$' hmem
  pause := rfl

theorem steps_echoText (bindings : Bindings) :
    Script.steps .shell bindings [echoText job.toList] = .ok [[.ofList (greetingLine job)]] := by
  have hfeed : '\n' ∉ job.toList := fun hmem => by cases h.word '\n' hmem
  have hreturn : '\r' ∉ job.toList := fun hmem => by cases h.word '\r' hmem
  have hplain : ∀ raw ∈ [greetingLine job, []], Line.Plain raw :=
    List.forall_mem_cons.mpr ⟨plain_greetingLine h, List.forall_mem_singleton.mpr ⟨by decide, by decide, rfl⟩⟩
  have hkeep : [greetingLine job, []].map Line.keep = [.line (greetingLine job), .elided] :=
    congrArg (fun text => [Line.Emitted.line text, .elided]) (trimEnd_greetingLine h)
  have hraws : Fragment.physicalLines (echoText job.toList).toList = [greetingLine job, []] :=
    physicalLines_echoText hfeed hreturn
  have hlines : Fragment.transform .shell bindings (echoText job.toList) = .ok [.ofList (greetingLine job)] := by
    rw [Fragment.transform, hraws]
    refine Fragment.transformLines_eq_ok_iff.mpr ⟨_, _, Fragment.runs_of_plain hplain, ?_⟩
    rw [hkeep]
    rfl
  have hopen : Fragment.isBlankLine (.ofList (greetingLine job)) = false := by
    rw [Fragment.isBlankLine, String.toList_ofList]
    rfl
  have hblock : Fragment.trimBlock [.ofList (greetingLine job)] = [.ofList (greetingLine job)] := by
    rw [Fragment.trimBlock_eq, (Fragment.Framed.single hopen).stripBlank_eq, if_neg (List.cons_ne_nil _ _),
      Fragment.trimEnds_single, String.toList_ofList]
    exact congrArg (fun text => [String.ofList text]) (trimEnd_greetingLine h)
  rw [Script.steps, hlines]
  change Except.ok [Fragment.trimBlock [.ofList (greetingLine job)]] = _
  rw [hblock]

theorem compile_eq_script :
    (workflow job.toList (.string job)).compile (.forTarget .shell) = .ok (script job) := by
  have hnode : (Document.Node.string job).scalarText = some job := rfl
  rw [compile_of_scalar hnode, steps_echoText h]
  rfl

theorem speaks_part : Script.Speaks (part job).lines
    ((part job).printed ((greeting job).toList ++ ['\n'])) := by
  refine Script.speaks_section (isPlainText_title h) (.one ?_)
  have hline : (String.ofList (greetingLine job)).toList = ("echo " ++ greeting job).toList := by
    rw [String.toList_ofList, greeting, String.toList_append, String.toList_append]
    rfl
  rw [hline]
  exact Script.spoken_plain (isPlainText_greeting h)

theorem speaks_script : Script.Speaks (script job).lines (printed job) := by
  have hquote : '\'' ∉ job.toList := fun hmem => by cases h.word '\'' hmem
  have hnul : '\x00' ∉ job.toList := fun hmem => by cases h.word '\x00' hmem
  have hparts := speaks_part h
  rw [← @List.flatMap_singleton _ _ Script.Section.lines] at hparts
  have hblocks : Script.Speaks ((script job).blocks.flatMap Script.JobBlock.lines) (printed job) := by
    rw [script, List.flatMap_singleton]
    exact Script.speaks_block hquote hnul hparts
  exact @Script.speaks_script [] (printed job) (script job) rfl .nil hblocks

end Compile

end Creation.Starter

namespace Workflow

theorem compileFile_starter {tree : FileTree} {path job : String} (h : Yaml.IsOrdinary job.toList)
    (hreach : Text.bytes job.toList ≤ Yaml.keyReach) (hpath : tree.exists? path = true)
    (hread : tree.readText path = .ok (starter job)) :
    compileFile tree path (.forTarget .shell) = .ok (Starter.script job) := by
  have htext : ofText (starter job) = .ok (Starter.workflow job.toList (.string job)) := by
    refine (Starter.ofText_starter_eq_ok_iff h.unquoted hreach h.printed).mpr ⟨.string job, ?_, rfl⟩
    rw [h.plain_eq, String.ofList_toList]
  rw [compileFile, load_of_readText hpath hread, htext]
  dsimp only
  rw [Starter.compile_eq_script h]

end Workflow

namespace Workspace

theorem resolve_of_missing {before after : FileTree} {workspace : Workspace} {name path : String}
    (hresolve : workspace.resolve before name = .ok path) (hmissing : before.isFile path = false)
    (hfile : after.isFile path = true) : workspace.resolve after name = .ok path := by
  obtain ⟨hname, rfl⟩ := resolve_eq_ok_iff.mp hresolve
  refine resolve_eq_ok_iff.mpr ⟨hname, ?_⟩
  by_cases hextension : ∃ ending, HasExtension name ending
  · obtain ⟨ending, hending⟩ := hextension
    rw [resolveValid_of_extension hending, resolveValid_of_extension hending]
  · have hbare : ∀ ending, ¬ HasExtension name ending := not_exists.mp hextension
    rw [resolveValid_of_bare hbare] at hmissing hfile ⊢
    rw [resolveValid_of_bare hbare]
    split at hmissing
    · next hyaml =>
      rw [hyaml.2] at hmissing
      cases hmissing
    · next hyml =>
      rw [if_neg hyml] at hfile ⊢
      rw [if_neg fun h => Bool.false_ne_true (h.1.symm.trans hfile)]

end Workspace

namespace Session

variable {name path job : String} {settings : Settings} {state : State} {environment : Environment}

theorem run_starter {workspace : Workspace} (hjob : Yaml.IsOrdinary job.toList)
    (hreach : Text.bytes job.toList ≤ Yaml.keyReach) (hresolve : workspace.resolve state.tree name = .ok path)
    (hfile : state.tree.isFile path = true) (hread : state.tree.readText path = .ok (starter job))
    (hsettings : settings.options = .forTarget .shell) (hshell : findsShell environment = true)
    (scriptPath : String) :
    (run scriptPath environment workspace name settings).runFrom state =
      (.ok 0, state.told (announcement scriptPath ++ .ofList (Starter.printed job))) := by
  have hcompile := Workflow.compileFile_starter hjob hreach (FileTree.exists?_of_isFile hfile) hread
  rw [← hsettings] at hcompile
  have hbatch : settings.batch = false := by
    have htarget := congrArg Script.Options.target hsettings
    cases hbatch : settings.batch with
    | false => rfl
    | true =>
      rw [Settings.options, hbatch] at htarget
      cases htarget
  exact runFrom_run hresolve hfile hcompile hbatch rfl hshell (Starter.speaks_script hjob) scriptPath

theorem run_of_new {scriptPath : String} {later : State}
    (hresolve : Workspace.here.resolve state.tree name = .ok path) (hrooted : state.tree.Rooted)
    (htemplate : Workspace.here.template? state.tree = none) (hmissing : state.tree.exists? path = false)
    (hfile : (treeLeft scriptPath environment (.new name) state).isFile path = true)
    (hjob : Yaml.IsOrdinary (Workspace.stem (Path.fileName path)).toList)
    (hlater : later.tree = treeLeft scriptPath environment (.new name) state)
    (hsettings : settings.options = .forTarget .shell) (hshell : findsShell environment = true) :
    (run scriptPath environment .here name settings).runFrom later =
      (.ok 0, later.told
        (announcement scriptPath ++ .ofList (Starter.printed (Workspace.stem (Path.fileName path))))) := by
  have hread := readText_of_new hresolve hrooted htemplate hmissing hfile
  have hreach := bytes_stem_le_of_new hresolve hrooted htemplate hmissing hfile
  have hnone : state.tree.isFile path = false := by
    rw [Bool.eq_false_iff]
    intro h
    rw [FileTree.exists?_of_isFile h] at hmissing
    cases hmissing
  rw [← hlater] at hread hfile
  have hagain := Workspace.resolve_of_missing hresolve hnone hfile
  exact run_starter hjob hreach hagain hfile hread hsettings hshell scriptPath

example : String.ofList (Starter.printed "ci") =
    ruleLine ++ "\njob ci: matrix count=1\n" ++ ruleLine ++ "\n" ++
      (String.ofList (List.replicate Script.ruleWidth '-') ++ "\nci: no matrix\n") ++
      (String.ofList (List.replicate Script.ruleWidth '-') ++ "\nHello from ci\n") := by
  decide +kernel

end Session

end WorkflowScript
