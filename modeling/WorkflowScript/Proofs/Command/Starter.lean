import WorkflowScript.Proofs.Command.Scaffold
import WorkflowScript.Proofs.Workflow.Starter
import WorkflowScript.Proofs.Workspace.Names

namespace WorkflowScript

open Creation Outcome

namespace Workspace

variable {tree : FileTree} {file : String}

theorem IsFileName.bytes_stem_le (h : IsFileName file) {entry : FileEntry}
    (hentry : tree.at? (workflowPath file) = some entry) :
    Text.bytes (stem file).toList ≤ Yaml.keyReach := by
  have hname : Text.bytes file.toList ≤ longestName :=
    Text.utf8ByteSize_eq_bytes file ▸ h.utf8ByteSize_le hentry
  obtain ⟨rest, hrest⟩ := stem_prefix file
  have hreach : longestName ≤ Yaml.keyReach := by decide
  rw [← hrest, Text.bytes_append] at hname
  omega

end Workspace

namespace Workflow

def CompilesTo (tree : FileTree) (path : String) (target : Target) (jobs : List String) : Prop :=
  ∃ script, compileFile tree path (.forTarget target) = .ok script ∧
    script.blocks.map Script.JobBlock.job = jobs

theorem load_of_readText {tree : FileTree} {path text : String} (hpath : tree.exists? path = true)
    (hread : tree.readText path = .ok text) : load tree path = ofText text := by
  rw [load, if_pos hpath, hread]

theorem compilesTo_iff {tree : FileTree} {path text : String} (hpath : tree.exists? path = true)
    (hread : tree.readText path = .ok text) {target : Target} {jobs : List String} :
    CompilesTo tree path target jobs ↔ ∃ workflow script, ofText text = .ok workflow ∧
      workflow.compile (.forTarget target) = .ok script ∧ script.blocks.map Script.JobBlock.job = jobs := by
  rw [CompilesTo, compileFile, load_of_readText hpath hread]
  cases ofText text with
  | error error => simp
  | ok workflow =>
    dsimp only
    cases hcompile : workflow.compile (.forTarget target) with
    | error error => simp [hcompile]
    | ok script => simp [hcompile]

end Workflow

namespace Session

variable {scriptPath : String} {environment : Environment} {name path job : String} {state : State}
  (hresolve : Workspace.here.resolve state.tree name = .ok path) (hrooted : state.tree.Rooted)
  (htemplate : Workspace.here.template? state.tree = none) (hmissing : state.tree.exists? path = false)
  (hfile : (treeLeft scriptPath environment (.new name) state).isFile path = true)
include hresolve hrooted htemplate hmissing hfile

theorem at?_of_new : (treeLeft scriptPath environment (.new name) state).at? path =
    some (.file (.text (starter (Workspace.stem (Path.fileName path))))) := by
  obtain ⟨content, hcontent⟩ := FileTree.isFile_iff.mp hfile
  obtain ⟨file, hname, rfl⟩ := Workspace.exists_isFileName hresolve
  rw [hcontent]
  rw [treeLeft, tree_new, hresolve] at hcontent
  have hends := Workspace.scaffolds_scaffold Workspace.here state.tree (Workspace.workflowPath file)
  have hnew := hends.newContent (by decide +kernel) (by decide +kernel) hrooted hname.goes_down hmissing
    hcontent
  rw [hnew.eq_starter htemplate]

theorem readText_of_new : (treeLeft scriptPath environment (.new name) state).readText path =
    .ok (starter (Workspace.stem (Path.fileName path))) :=
  FileTree.readText_of_at? (at?_of_new hresolve hrooted htemplate hmissing hfile)

theorem bytes_stem_le_of_new : Text.bytes (Workspace.stem (Path.fileName path)).toList ≤ Yaml.keyReach := by
  have hat := at?_of_new hresolve hrooted htemplate hmissing hfile
  obtain ⟨file, hname, rfl⟩ := Workspace.exists_isFileName hresolve
  rw [hname.fileName_workflowPath]
  exact hname.bytes_stem_le hat

theorem compilesTo_of_new_iff (hunquoted : Yaml.Lexer.Unquoted (Workspace.stem (Path.fileName path)).toList)
    (hprinted : Yaml.Lexer.Printed (Workspace.stem (Path.fileName path)).toList) (target : Target) :
    Workflow.CompilesTo (treeLeft scriptPath environment (.new name) state) path target
        [Workspace.stem (Path.fileName path)] ↔
      Starter.NamesItself (Workspace.stem (Path.fileName path)) ∧
        Starter.Prints (Workspace.stem (Path.fileName path)).toList := by
  have hread := readText_of_new hresolve hrooted htemplate hmissing hfile
  have hreach := bytes_stem_le_of_new hresolve hrooted htemplate hmissing hfile
  refine Iff.trans ?_ (Starter.compile_starter_iff hunquoted hreach hprinted target)
  exact Workflow.compilesTo_iff (FileTree.exists?_of_isFile hfile) hread

theorem new_starter_compiles {job : String} (hjob : Workspace.stem (Path.fileName path) = job) :
    (treeLeft scriptPath environment (.new name) state).readText path = .ok (starter job) ∧
    (Yaml.Lexer.Unquoted job.toList → Yaml.Lexer.Printed job.toList → ∀ target,
      Workflow.CompilesTo (treeLeft scriptPath environment (.new name) state) path target [job] ↔
        Starter.NamesItself job ∧ Starter.Prints job.toList) ∧
    (Yaml.IsOrdinary job.toList → ∀ target,
      Workflow.CompilesTo (treeLeft scriptPath environment (.new name) state) path target [job]) := by
  subst hjob
  have hiff := compilesTo_of_new_iff hresolve hrooted htemplate hmissing hfile
  refine ⟨readText_of_new hresolve hrooted htemplate hmissing hfile, hiff, fun h target => ?_⟩
  exact (hiff h.unquoted h.printed target).mpr
    ⟨Starter.namesItself_of_isOrdinary h, Starter.prints_of_isOrdinary h⟩

omit hresolve hrooted htemplate hmissing hfile

def emptyState : State := ⟨⟨[(["w"], .directory)], ["w"]⟩, [], "", "", none⟩

theorem new_starter_of_ci :
    let left := treeLeft "ghx.sh" [] (.new "ci") emptyState
    left.readText "./.github/workflows/ci.yml" = .ok (starter "ci") ∧
      Workflow.CompilesTo left "./.github/workflows/ci.yml" .shell ["ci"] ∧
      Workflow.CompilesTo left "./.github/workflows/ci.yml" .batch ["ci"] := by
  have hresolve : Workspace.here.resolve emptyState.tree "ci" = .ok "./.github/workflows/ci.yml" := by
    decide +kernel
  have hfile : (treeLeft "ghx.sh" [] (.new "ci") emptyState).isFile "./.github/workflows/ci.yml" = true := by
    decide +kernel
  have hstem : Workspace.stem (Path.fileName "./.github/workflows/ci.yml") = "ci" := by decide +kernel
  obtain ⟨htext, -, hordinary⟩ := new_starter_compiles hresolve (by decide +kernel) (by decide +kernel)
    (by decide +kernel) hfile hstem
  have hci : Yaml.IsOrdinary "ci".toList := ⟨by decide, List.all_eq_true.mp (by decide), by decide, by decide⟩
  exact ⟨htext, hordinary hci .shell, hordinary hci .batch⟩

theorem new_starter_of_null :
    let left := treeLeft "ghx.sh" [] (.new "null") emptyState
    Workspace.checkName "null" = .ok () ∧
      left.readText "./.github/workflows/null.yml" = .ok (starter "null") ∧
      Workflow.compileFile left "./.github/workflows/null.yml" (.forTarget .shell) =
        .error (.compile .noJobs) := by
  have hresolve : Workspace.here.resolve emptyState.tree "null" = .ok "./.github/workflows/null.yml" := by
    decide +kernel
  have hfile : (treeLeft "ghx.sh" [] (.new "null") emptyState).isFile "./.github/workflows/null.yml" = true := by
    decide +kernel
  have hread := readText_of_new hresolve (by decide +kernel) (by decide +kernel) (by decide +kernel) hfile
  have hstem : Workspace.stem (Path.fileName "./.github/workflows/null.yml") = "null" := by decide +kernel
  rw [hstem] at hread
  have hunquoted : Yaml.Lexer.Unquoted "null".toList := .word (by decide) (by decide)
  have hprinted : Yaml.Lexer.Printed "null".toList := by decide
  have htext : Workflow.ofText (starter "null") = .ok (Starter.workflow "null".toList .null) :=
    (Starter.ofText_starter_eq_ok_iff hunquoted (by decide) hprinted).mpr ⟨.null, rfl, rfl⟩
  refine ⟨by decide +kernel, hread, ?_⟩
  rw [Workflow.compileFile, Workflow.load_of_readText (FileTree.exists?_of_isFile hfile) hread, htext]
  dsimp only
  rw [Starter.compile_of_none rfl]

end Session

end WorkflowScript
