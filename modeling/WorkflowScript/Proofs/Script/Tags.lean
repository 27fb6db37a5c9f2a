import WorkflowScript.Proofs.Script.Congruence
import WorkflowScript.Proofs.Workflow.Untagged
import WorkflowScript.Workspace.Load

namespace WorkflowScript.Workflow

open Document Outcome Script

theorem compile_of_untagged {workflow workflow' : Workflow}
    (h : workflow'.root = workflow.root.untagged) (options : Options) :
    workflow'.compile options = workflow.compile options := by
  symm
  apply compile_congr
  · rw [h, InputTable.ofRoot_untagged]
  · rw [h, declaredJobs_untagged, List.forall₂_map_right_iff, List.forall₂_same]
    intro job _
    exact ⟨rfl, blockFor_congr rfl (Matrix.expand_untagged job).symm (Job.runs_untagged job).symm
      fun bindings => (Runner.resolve_untagged job bindings).symm⟩

def untagged (workflow : Workflow) : Workflow :=
  ⟨workflow.root.untagged, by rw [Node.kind_untagged, workflow.isMapping]⟩

theorem exists_ofRoot_iff {root : Node} :
    (∃ workflow, ofRoot root = .ok workflow) ↔ root.kind = .mapping := by
  rw [ofRoot, ofRoot?]
  by_cases h : root.kind = .mapping
  · rw [dif_pos h]
    exact iff_of_true ⟨_, rfl⟩ h
  · rw [dif_neg h]
    exact iff_of_false (fun ⟨_, hw⟩ => by cases hw) h

theorem root_of_ofRoot {root : Node} {workflow : Workflow} (h : ofRoot root = .ok workflow) :
    workflow.root = root := by
  rw [ofRoot, ofRoot?] at h
  split at h
  · next hsome =>
    split at hsome
    · cases hsome
      cases h
      rfl
    · cases hsome
  · cases h

theorem tags_immaterial {root root' : Node} (h : Node.Wrapped root root') :
    ((∃ workflow, ofRoot root = .ok workflow) ↔ ∃ workflow', ofRoot root' = .ok workflow') ∧
    ∀ workflow workflow', ofRoot root = .ok workflow → ofRoot root' = .ok workflow' →
      ∀ options, workflow.compile options = workflow'.compile options := by
  constructor
  · rw [exists_ofRoot_iff, exists_ofRoot_iff, ← Node.kind_untagged root, h.untagged_eq,
      Node.kind_untagged]
  · intro workflow workflow' hroot hroot' options
    have hbare : workflow.untagged.compile options = workflow.compile options :=
      compile_of_untagged rfl options
    have hsame : workflow.untagged.root = workflow'.root.untagged := by
      change workflow.root.untagged = workflow'.root.untagged
      rw [root_of_ofRoot hroot, root_of_ofRoot hroot', h.untagged_eq]
    rw [← hbare, compile_of_untagged hsame]

section Labelled

def bare : Node :=
  .mapping [(.string "jobs", .mapping [(.string "build", .mapping
    [(.string "runs-on", .string "ubuntu-latest"),
      (.string "steps", .sequence [.mapping [(.string "shell", .null), (.string "run", .string "make")]])])])]

def dressed : Node :=
  .tagged "!doc" (.tagged "!ci" (.mapping [(.string "jobs", .tagged "!jobs" (.mapping
    [(.string "build", .tagged "!job" (.mapping
      [(.string "runs-on", .tagged "!label" (.string "ubuntu-latest")),
        (.string "steps", .tagged "!list" (.sequence [.tagged "!step" (.mapping
          [(.string "shell", .tagged "!none" .null),
            (.string "run", .tagged "!text" (.tagged "!line" (.string "make")))])]))]))]))]))

theorem wrapped_dressed : Node.Wrapped bare dressed := by
  have hstep : Node.Wrapped (.mapping [(.string "shell", .null), (.string "run", .string "make")])
      (.tagged "!step" (.mapping [(.string "shell", .tagged "!none" .null),
        (.string "run", .tagged "!text" (.tagged "!line" (.string "make")))])) :=
    .wrap _ (.mapping (.cons (.string _) (.wrap _ .null)
      (.cons (.string _) (.wrap _ (.wrap _ (.string _))) .nil)))
  refine .wrap _ (.wrap _ (.mapping (.cons (.string _) (.wrap _ ?_) .nil)))
  refine .mapping (.cons (.string _) (.wrap _ ?_) .nil)
  refine .mapping (.cons (.string _) (.wrap _ (.string _)) (.cons (.string _) ?_ .nil))
  exact .wrap _ (.sequence (.cons hstep .nil))

theorem compile_dressed : Node.Wrapped bare dressed ∧ ∃ workflow workflow' script,
    ofRoot bare = .ok workflow ∧ ofRoot dressed = .ok workflow' ∧
    workflow.compile (.forTarget .shell) = .ok script ∧
    workflow'.compile (.forTarget .shell) = .ok script := by
  obtain ⟨hiff, hcompile⟩ := tags_immaterial wrapped_dressed
  obtain ⟨workflow, hroot⟩ : ∃ workflow, ofRoot bare = .ok workflow := ⟨⟨bare, rfl⟩, rfl⟩
  obtain ⟨workflow', hroot'⟩ := hiff.mp ⟨workflow, hroot⟩
  obtain ⟨script, hscript⟩ : ∃ script, workflow.compile (.forTarget .shell) = .ok script := by
    cases hroot
    exact exists_of_isOk (by decide +kernel)
  have hsame := hcompile workflow workflow' hroot hroot' (.forTarget .shell)
  exact ⟨wrapped_dressed, workflow, workflow', script, hroot, hroot', hscript, hsame ▸ hscript⟩

end Labelled

end WorkflowScript.Workflow
