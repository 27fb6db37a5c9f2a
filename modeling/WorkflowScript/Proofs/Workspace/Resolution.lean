import WorkflowScript.Proofs.Text.Case
import WorkflowScript.Proofs.Workspace.Names

namespace WorkflowScript.Workspace

def HasExtension (name ending : String) : Prop :=
  name ≠ ".." ∧ ∃ front, front ≠ [] ∧ name.toList = front ++ '.' :: ending.toList ∧ '.' ∉ ending.toList

def IsYamlEnding (ending : String) : Prop :=
  ∃ plain ∈ ["yml", "yaml"], ending.toList.map Char.toLower = plain.toList

inductive Flawed (name : String) : NameFlaw → Prop
  | blank (h : Text.allBlank name.toList = true) : Flawed name .blank
  | separator (hopen : Text.allBlank name.toList = false) (h : '/' ∈ name.toList ∨ '\\' ∈ name.toList) :
      Flawed name .separator
  | unknownExtension {ending : String} (hopen : Text.allBlank name.toList = false)
      (hslash : '/' ∉ name.toList) (hbackslash : '\\' ∉ name.toList) (h : HasExtension name ending)
      (hother : ¬ IsYamlEnding ending) : Flawed name (.unknownExtension ending)

inductive Means (workspace : Workspace) (tree : FileTree) (name : String) : String → Prop
  | asWritten {ending : String} (h : HasExtension name ending) : Means workspace tree name name
  | yaml (hbare : ∀ ending, ¬ HasExtension name ending)
      (hyml : tree.isFile (Path.join workspace.workflows (name ++ ".yml")) = false)
      (hyaml : tree.isFile (Path.join workspace.workflows (name ++ ".yaml")) = true) :
      Means workspace tree name (name ++ ".yaml")
  | yml (hbare : ∀ ending, ¬ HasExtension name ending)
      (h : tree.isFile (Path.join workspace.workflows (name ++ ".yml")) = true ∨
        tree.isFile (Path.join workspace.workflows (name ++ ".yaml")) = false) :
      Means workspace tree name (name ++ ".yml")

structure IsWorkflowFile (file : String) : Prop extends IsFileName file where
  no_backslash : '\\' ∉ file.toList
  extension : ∃ ending, HasExtension file ending ∧ IsYamlEnding ending

variable {workspace : Workspace} {tree : FileTree} {name ending file : String}

section Extension

theorem extension?_of_no_dot (h : '.' ∉ name.toList) : extension? name = none := by
  rw [extension?, stemAndExtension, List.splitOn_eq_singleton h]
  exact congrArg Prod.snd (if_pos (.inr (.inr rfl)))

theorem extension?_of_dot {front back : List Char} (hname : name.toList = front ++ '.' :: back)
    (hback : '.' ∉ back) :
    extension? name = if name = "." ∨ name = ".." ∨ front = [] then none else some (.ofList back) := by
  have hparts : name.toList.splitOn '.' = front.splitOn '.' ++ [back] := by rw [hname, Text.splitOn_last hback]
  rw [extension?, stemAndExtension, hparts, List.dropLast_concat, List.intercalate_splitOn, List.getLast?_concat]
  exact apply_ite Prod.snd _ _ _

theorem extension?_eq_some_iff : extension? name = some ending ↔ HasExtension name ending := by
  constructor
  · intro h
    by_cases hdot : '.' ∈ name.toList
    · obtain ⟨front, back, hname, hback⟩ := Text.exists_last_mark hdot
      rw [extension?_of_dot hname hback, Option.ite_none_left_eq_some] at h
      obtain ⟨hplain, hending⟩ := h
      obtain rfl := Option.some.inj hending
      rw [not_or, not_or] at hplain
      exact ⟨hplain.2.1, front, hplain.2.2, by rw [hname, String.toList_ofList], by rwa [String.toList_ofList]⟩
    · rw [extension?_of_no_dot hdot] at h
      cases h
  · rintro ⟨hup, front, hfront, hname, hending⟩
    have hdot : name ≠ "." := by
      rintro rfl
      obtain ⟨c, front, rfl⟩ := List.exists_cons_of_ne_nil hfront
      have hlength := congrArg List.length hname
      simp at hlength
    rw [extension?_of_dot hname hending, if_neg (by simp [hdot, hup, hfront]), String.ofList_toList]

theorem extension?_eq_none_iff : extension? name = none ↔ ∀ ending, ¬ HasExtension name ending := by
  simp only [← extension?_eq_some_iff, Option.eq_none_iff_forall_ne_some, ne_eq]

theorem isWorkflowExtension_iff : isWorkflowExtension ending = true ↔ IsYamlEnding ending := by
  have hletters : ∀ plain ∈ extensions, ∀ c ∈ plain.toList, Text.isOwnLetter c = true := by
    simp [extensions, Text.isOwnLetter]
  rw [isWorkflowExtension, List.contains_iff_mem, IsYamlEnding]
  constructor
  · intro h
    exact ⟨_, h, (Text.lower_eq_iff (hletters _ h)).mp rfl⟩
  · rintro ⟨plain, hplain, h⟩
    rw [(Text.lower_eq_iff (hletters plain hplain)).mpr h]
    exact hplain

end Extension

section Names

theorem Flawed.checkName {flaw : NameFlaw} (h : Flawed name flaw) : checkName name = .error flaw := by
  cases h with
  | blank h => exact if_pos h
  | separator hopen h =>
    rw [Workspace.checkName, hopen, if_neg Bool.false_ne_true]
    exact if_pos h
  | unknownExtension hopen hslash hbackslash h hother =>
    rw [Workspace.checkName, hopen, if_neg Bool.false_ne_true, if_neg (not_or.mpr ⟨hslash, hbackslash⟩),
      extension?_eq_some_iff.mpr h]
    exact if_neg fun hyaml => hother (isWorkflowExtension_iff.mp hyaml)

theorem checkName_eq_error_iff {flaw : NameFlaw} : checkName name = .error flaw ↔ Flawed name flaw := by
  refine ⟨fun h => ?_, Flawed.checkName⟩
  rw [checkName] at h
  split at h
  · next hblank =>
    cases h
    exact .blank hblank
  · next hopen =>
    rw [Bool.not_eq_true] at hopen
    split at h
    · next hseparator =>
      cases h
      exact .separator hopen hseparator
    · next hseparator =>
      obtain ⟨hslash, hbackslash⟩ := not_or.mp hseparator
      split at h
      · cases h
      · next ending hending =>
        split at h
        · cases h
        · next hother =>
          cases h
          exact .unknownExtension hopen hslash hbackslash (extension?_eq_some_iff.mp hending)
            fun hyaml => hother (isWorkflowExtension_iff.mpr hyaml)

theorem resolve_eq_error_iff {error : LoadError} : workspace.resolve tree name = .error error ↔
    ∃ flaw, Flawed name flaw ∧ error = .invalidName name flaw := by
  simp only [← checkName_eq_error_iff]
  rw [resolve]
  cases checkName name with
  | ok => simp
  | error flaw => simp [eq_comm]

theorem exists_flawed_iff : (∃ flaw, Flawed name flaw) ↔ Text.allBlank name.toList = true ∨
    '/' ∈ name.toList ∨ '\\' ∈ name.toList ∨ ∃ ending, HasExtension name ending ∧ ¬ IsYamlEnding ending := by
  have hok : (∃ flaw, Flawed name flaw) ↔ ¬ checkName name = .ok () := by
    simp only [← checkName_eq_error_iff]
    cases checkName name <;> simp
  rw [hok, checkName_eq_ok_iff]
  simp only [extension?_eq_some_iff, isWorkflowExtension_iff, not_and_or, not_not, Bool.not_eq_false, not_forall,
    exists_prop]

end Names

section Meaning

theorem isWorkflowFile_of_extension (hname : checkName name = .ok ()) (h : HasExtension name ending) :
    IsWorkflowFile name := by
  have hending : extension? name = some ending := extension?_eq_some_iff.mpr h
  obtain ⟨-, -, hbackslash, hyaml⟩ := checkName_eq_ok_iff.mp hname
  exact {
    IsFileName.of_extension hname (Option.isSome_of_eq_some hending) with
    no_backslash := hbackslash
    extension := ⟨ending, h, isWorkflowExtension_iff.mp (hyaml ending hending)⟩ }

theorem isWorkflowFile_append (hname : checkName name = .ok ()) (h : ending ∈ extensions) :
    IsWorkflowFile (name ++ "." ++ ending) := by
  have hplain : ∀ ending ∈ extensions, '\\' ∉ ending.toList ∧ '.' ∉ ending.toList ∧
      ending.toList.map Char.toLower = ending.toList := by
    simp [extensions]
  obtain ⟨hbackslash, hdot, hlower⟩ := hplain ending h
  have hfile := IsFileName.append hname h
  obtain ⟨hopen, -, hname, -⟩ := checkName_eq_ok_iff.mp hname
  have htext : (name ++ "." ++ ending).toList = name.toList ++ '.' :: ending.toList := by
    simp [String.toList_append]
  have hne : name.toList ≠ [] := fun hnil => by simp [hnil, Text.allBlank] at hopen
  exact {
    hfile with
    no_backslash := by
      rw [htext]
      exact List.not_mem_append hname (List.not_mem_cons_of_ne_of_not_mem (by decide) hbackslash)
    extension := ⟨ending, ⟨hfile.not_up, name.toList, hne, htext, hdot⟩, ending, h, hlower⟩ }

theorem resolveValid_of_extension (h : HasExtension name ending) :
    workspace.resolveValid tree name = Path.join workspace.workflows name :=
  if_pos (Option.isSome_of_eq_some (extension?_eq_some_iff.mpr h))

theorem resolveValid_of_bare (h : ∀ ending, ¬ HasExtension name ending) :
    workspace.resolveValid tree name =
      if tree.isFile (Path.join workspace.workflows (name ++ ".yml")) = false ∧
          tree.isFile (Path.join workspace.workflows (name ++ ".yaml")) = true then
        Path.join workspace.workflows (name ++ ".yaml")
      else Path.join workspace.workflows (name ++ ".yml") := by
  have hyml : name ++ "." ++ "yml" = name ++ ".yml" := String.append_assoc
  have hyaml : name ++ "." ++ "yaml" = name ++ ".yaml" := String.append_assoc
  rw [resolveValid, extension?_eq_none_iff.mpr h, if_neg (by simp)]
  simp only [extensions, List.map_cons, List.map_nil, hyml, hyaml, List.find?_cons, List.find?_nil]
  cases tree.isFile (Path.join workspace.workflows (name ++ ".yml")) <;>
    cases tree.isFile (Path.join workspace.workflows (name ++ ".yaml")) <;> rfl

theorem exists_means (workspace : Workspace) (tree : FileTree) (name : String) :
    ∃ file, Means workspace tree name file ∧
      workspace.resolveValid tree name = Path.join workspace.workflows file := by
  by_cases hextension : ∃ ending, HasExtension name ending
  · obtain ⟨ending, h⟩ := hextension
    exact ⟨name, .asWritten h, resolveValid_of_extension h⟩
  · have hbare := not_exists.mp hextension
    rw [resolveValid_of_bare hbare]
    split
    · next h => exact ⟨_, .yaml hbare h.1 h.2, rfl⟩
    · next h =>
      rw [not_and_or, Bool.not_eq_false, Bool.not_eq_true] at h
      exact ⟨_, .yml hbare h, rfl⟩

theorem Means.isWorkflowFile (hname : checkName name = .ok ()) (h : Means workspace tree name file) :
    IsWorkflowFile file := by
  have happend : ∀ ending ∈ extensions, IsWorkflowFile (name ++ ("." ++ ending)) := fun ending hending =>
    String.append_assoc ▸ isWorkflowFile_append hname hending
  cases h with
  | asWritten h => exact isWorkflowFile_of_extension hname h
  | yaml => exact happend "yaml" (by decide)
  | yml => exact happend "yml" (by decide)

theorem IsWorkflowFile.checkName (h : IsWorkflowFile file) : checkName file = .ok () := by
  obtain ⟨ending, hending, hyaml⟩ := h.extension
  have hopen : Text.allBlank file.toList = false := by
    obtain ⟨-, front, -, htext, -⟩ := hending
    rw [htext, Text.allBlank, List.all_append, List.all_cons, Bool.and_eq_false_iff]
    exact .inr rfl
  refine checkName_eq_ok_iff.mpr ⟨hopen, h.no_separator, h.no_backslash, ?_⟩
  rintro other hother
  cases (extension?_eq_some_iff.mpr hending).symm.trans hother
  exact isWorkflowExtension_iff.mpr hyaml

theorem IsWorkflowFile.resolve (h : IsWorkflowFile file) :
    workspace.resolve tree file = .ok (Path.join workspace.workflows file) := by
  obtain ⟨ending, hending, -⟩ := h.extension
  exact resolve_eq_ok_iff.mpr ⟨h.checkName, resolveValid_of_extension hending⟩

theorem names_confined (workspace : Workspace) (tree : FileTree) (name : String) :
    (∀ error, workspace.resolve tree name = .error error ↔
      ∃ flaw, Flawed name flaw ∧ error = .invalidName name flaw) ∧
    ((∃ flaw, Flawed name flaw) ↔ Text.allBlank name.toList = true ∨ '/' ∈ name.toList ∨ '\\' ∈ name.toList ∨
      ∃ ending, HasExtension name ending ∧ ¬ IsYamlEnding ending) ∧
    ((∀ flaw, ¬ Flawed name flaw) → ∃ file, Means workspace tree name file ∧ IsWorkflowFile file ∧
      workspace.resolve tree name = .ok (Path.join workspace.workflows file) ∧
      Path.join workspace.workflows file = workspace.workflows ++ "/" ++ file ∧
      Path.names (Path.join workspace.workflows file) = Path.names workspace.workflows ++ [file] ∧
      checkName file = .ok () ∧
      workspace.resolve tree file = .ok (Path.join workspace.workflows file)) := by
  refine ⟨fun _ => resolve_eq_error_iff, exists_flawed_iff, fun hsound => ?_⟩
  have hname : checkName name = .ok () := by
    cases h : checkName name with
    | ok => rfl
    | error flaw => exact absurd (checkName_eq_error_iff.mp h) (hsound flaw)
  obtain ⟨file, hmeans, hpath⟩ := exists_means workspace tree name
  have hfile := hmeans.isWorkflowFile hname
  obtain ⟨hjoin, hnames⟩ := hfile.join_names workspace
  exact ⟨file, hmeans, hfile, resolve_eq_ok_iff.mpr ⟨hname, hpath⟩, hjoin, hnames, hfile.checkName, hfile.resolve⟩

theorem parent_confined : ∃ file, Means here .empty ".." file ∧ IsWorkflowFile file ∧
    here.resolve .empty ".." = .ok (Path.join here.workflows file) := by
  obtain ⟨-, -, hmeaning⟩ := names_confined here .empty ".."
  have hsound : checkName ".." = .ok () := rfl
  obtain ⟨file, hmeans, hfile, hresolve, -⟩ := hmeaning fun flaw h => by
    cases hsound.symm.trans (checkName_eq_error_iff.mpr h)
  exact ⟨file, hmeans, hfile, hresolve⟩

end Meaning

end WorkflowScript.Workspace
