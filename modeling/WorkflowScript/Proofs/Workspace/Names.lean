import Mathlib.Data.List.Infix
import WorkflowScript.Proofs.Text.Cut
import WorkflowScript.Proofs.Workspace.FileTree
import WorkflowScript.Proofs.Workspace.Scaffold

namespace WorkflowScript.Workspace

structure IsFileName (file : String) : Prop where
  ne_empty : file ≠ ""
  not_dot : file ≠ "."
  not_up : file ≠ ".."
  no_separator : '/' ∉ file.toList

def workflowPath (file : String) : String := "./.github/workflows" ++ "/" ++ file

variable {workspace : Workspace} {tree : FileTree} {file name path ending : String}

section Path

variable {directory base : String} {last : Char}

theorem getLast?_join (h : name.toList.getLast? = some last) :
    (Path.join base name).toList.getLast? = some last := by
  have happend : ∀ front : String, (front ++ name).toList.getLast? = some last := fun front => by
    rw [String.toList_append, List.getLast?_append, h]
    rfl
  rw [Path.join]
  split
  · exact h
  · split
    · exact happend base
    · exact happend (base ++ "/")

theorem getLast?_workflows (workspace : Workspace) : workspace.workflows.toList.getLast? = some 's' :=
  getLast?_join (by decide)

theorem workflows_here : Workspace.here.workflows = "./.github/workflows" := rfl

theorem join_of_getLast? (h : directory.toList.getLast? = some last) (hlast : last ≠ '/')
    (hfile : '/' ∉ file.toList) : Path.join directory file = directory ++ "/" ++ file := by
  have hhead : file.toList.head? ≠ some '/' := fun hhead => hfile (List.mem_of_head? hhead)
  have hne : directory ≠ "" := by
    rintro rfl
    cases h
  have hseparator : directory.toList.getLast? ≠ some '/' := by
    rw [h]
    exact fun heq => hlast (Option.some.inj heq)
  rw [Path.join, if_neg (not_or.mpr ⟨hhead, hne⟩), if_neg hseparator]

theorem splitOn_append_slash (directory : String) (hfile : '/' ∉ file.toList) :
    (directory ++ "/" ++ file).toList.splitOn '/' = directory.toList.splitOn '/' ++ [file.toList] := by
  have htext : (directory ++ "/" ++ file).toList = directory.toList ++ '/' :: file.toList := by
    simp [String.toList_append]
  rw [htext, Text.splitOn_last hfile]

theorem names_append (h : directory.toList.getLast? = some last) (hlast : last ≠ '/')
    (hfile : '/' ∉ file.toList) (hne : file ≠ "") :
    Path.names (directory ++ "/" ++ file) = Path.names directory ++ [file] := by
  have hdirectory : ((directory.toList.splitOn '/').map String.ofList).getLast? ≠ some "" := by
    rw [List.getLast?_map]
    intro hempty
    obtain ⟨part, hpart, hnil⟩ := Option.map_eq_some_iff.mp hempty
    rw [String.ofList_eq_empty_iff.mp hnil] at hpart
    exact Text.getLast?_splitOn_ne h hlast hpart
  simp only [Path.names, splitOn_append_slash directory hfile, List.map_append, List.map_singleton,
    List.filter_append, List.getLast?_concat, String.ofList_toList]
  rw [if_neg hdirectory, if_neg (fun h => hne (Option.some.inj h))]
  simp [hne]

end Path

theorem checkName_eq_ok_iff : checkName name = .ok () ↔
    Text.allBlank name.toList = false ∧ '/' ∉ name.toList ∧ '\\' ∉ name.toList ∧
      ∀ ending, extension? name = some ending → isWorkflowExtension ending = true := by
  rw [checkName]
  cases Text.allBlank name.toList with
  | true => simp
  | false =>
    by_cases hseparator : '/' ∈ name.toList ∨ '\\' ∈ name.toList
    · rw [if_neg Bool.false_ne_true, if_pos hseparator]
      simp only [reduceCtorEq, false_iff]
      rintro ⟨-, hslash, hbackslash, -⟩
      exact hseparator.elim hslash hbackslash
    · rw [if_neg Bool.false_ne_true, if_neg hseparator]
      rw [not_or] at hseparator
      cases extension? name with
      | none => simp [hseparator]
      | some ending => simp [hseparator]

namespace IsFileName

section Path

variable (h : IsFileName file)
include h

theorem join_names (workspace : Workspace) :
    Path.join workspace.workflows file = workspace.workflows ++ "/" ++ file ∧
      Path.names (Path.join workspace.workflows file) = Path.names workspace.workflows ++ [file] := by
  have hlast : ('s' : Char) ≠ '/' := by decide
  have hjoin := join_of_getLast? (getLast?_workflows workspace) hlast h.no_separator
  refine ⟨hjoin, ?_⟩
  rw [hjoin]
  exact names_append (getLast?_workflows workspace) hlast h.no_separator h.ne_empty

theorem join_workflows : Path.join Workspace.here.workflows file = workflowPath file := by
  rw [(h.join_names Workspace.here).1, workflows_here]
  rfl

theorem names_workflowPath : Path.names (workflowPath file) = [".", ".github", "workflows", file] := by
  have hparts : "./.github/workflows".toList.splitOn '/' = [".".toList, ".github".toList, "workflows".toList] := rfl
  rw [← h.join_workflows, (h.join_names Workspace.here).2, workflows_here, Path.names, hparts]
  simp

theorem fileName_workflowPath : Path.fileName (workflowPath file) = file := by
  have hparts : (workflowPath file).toList.splitOn '/' =
      "./.github/workflows".toList.splitOn '/' ++ [file.toList] := splitOn_append_slash _ h.no_separator
  rw [Path.fileName, hparts, List.getLast?_concat]
  exact String.ofList_toList

theorem goes_down : ".." ∉ Path.names (workflowPath file) := by
  rw [h.names_workflowPath]
  simp [h.not_up.symm]

theorem utf8ByteSize_le {entry : FileEntry} (hentry : tree.at? (workflowPath file) = some entry) :
    file.utf8ByteSize ≤ longestName := by
  obtain ⟨place, hlocate, -⟩ := FileTree.at?_eq_some_iff.mp hentry
  obtain ⟨-, hleads⟩ := FileTree.locate_eq_ok_iff.mp hlocate
  have hnames : ∀ name ∈ Path.names (workflowPath file), name = "." ∨ FileTree.IsPlain name :=
    hleads.isPlain_of_mem h.goes_down
  have hfile : file ∈ Path.names (workflowPath file) := by
    rw [h.names_workflowPath]
    simp
  exact Nat.le_of_not_gt ((hnames file hfile).resolve_left h.not_dot).short

end Path

theorem of_extension (hname : checkName name = .ok ()) (h : (extension? name).isSome = true) :
    IsFileName name where
  ne_empty := by
    rintro rfl
    cases hname
  not_dot := by
    rintro rfl
    cases h
  not_up := by
    rintro rfl
    cases h
  no_separator := (checkName_eq_ok_iff.mp hname).2.1

theorem append (hname : checkName name = .ok ()) (h : ending ∈ extensions) :
    IsFileName (name ++ "." ++ ending) := by
  have hending : 3 ≤ ending.length ∧ '/' ∉ ending.toList := by
    revert h ending
    decide
  have hne : ∀ short : String, short.length < 3 → name ++ "." ++ ending ≠ short := by
    rintro short hshort rfl
    simp only [String.length_append] at hshort
    omega
  have hslash : '/' ∉ (name ++ "." ++ ending).toList := by
    rw [String.toList_append, String.toList_append]
    exact List.not_mem_append (List.not_mem_append (checkName_eq_ok_iff.mp hname).2.1 (by decide)) hending.2
  exact ⟨hne "" (by decide), hne "." (by decide), hne ".." (by decide), hslash⟩

end IsFileName

theorem exists_isFileName (h : Workspace.here.resolve tree name = .ok path) :
    ∃ file, IsFileName file ∧ path = workflowPath file := by
  obtain ⟨hname, rfl⟩ := resolve_eq_ok_iff.mp h
  rw [resolveValid]
  by_cases hextension : (extension? name).isSome = true
  · have hfile := IsFileName.of_extension hname hextension
    exact ⟨name, hfile, by rw [if_pos hextension, hfile.join_workflows]⟩
  · rw [if_neg hextension]
    dsimp only
    cases hfound : (extensions.map fun ending =>
        Path.join Workspace.here.workflows (name ++ "." ++ ending)).find? tree.isFile with
    | some path =>
      obtain ⟨ending, hending, rfl⟩ := List.mem_map.mp (List.mem_of_find?_eq_some hfound)
      have hfile := IsFileName.append hname hending
      exact ⟨_, hfile, hfile.join_workflows⟩
    | none =>
      have hending : "yml" ∈ extensions := by decide
      have hfile := IsFileName.append hname hending
      rw [String.append_assoc] at hfile
      exact ⟨_, hfile, hfile.join_workflows⟩

section Stem

theorem intercalate_dropLast_prefix (separator : List Char) (parts : List (List Char)) :
    separator.intercalate parts.dropLast <+: separator.intercalate parts := by
  induction parts with
  | nil => exact List.prefix_rfl
  | cons part parts ih =>
    match parts with
    | [] => exact List.nil_prefix
    | [last] =>
      rw [List.intercalate_cons_cons, List.append_assoc]
      exact List.intercalate_singleton ▸ List.prefix_append part _
    | second :: third :: rest =>
      rw [List.dropLast_cons_cons, List.dropLast_cons_cons, List.intercalate_cons_cons,
        List.intercalate_cons_cons]
      exact (List.prefix_append_right_inj _).mpr ih

theorem stem_prefix (file : String) : (stem file).toList <+: file.toList := by
  rw [stem, stemAndExtension]
  split
  · exact List.prefix_rfl
  · have hprefix := intercalate_dropLast_prefix ['.'] (file.toList.splitOn '.')
    rw [List.intercalate_splitOn] at hprefix
    rwa [String.toList_ofList]

end Stem

end WorkflowScript.Workspace
