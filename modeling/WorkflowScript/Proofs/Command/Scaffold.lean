import WorkflowScript.Proofs.Command.Session
import WorkflowScript.Proofs.Workspace.Scaffold

namespace WorkflowScript.Session

variable {workspace : Workspace} {before after : FileTree} {name path : String}

theorem runFrom_create (workspace : Workspace) (path : String) (report : CreationError → Report)
    (state : State) : ∃ left, (create workspace path report).runFrom state =
      ((workspace.scaffold state.tree path).1.mapError fun error => .failed (report error), left) ∧
        left.tree = (workspace.scaffold state.tree path).2 := by
  rw [create, runFrom_get_bind, Workspace.scaffold, runFrom_bind, runFrom_orReport]
  cases workspace.prepare state.tree with
  | error error => exact ⟨state, rfl, rfl⟩
  | ok made =>
    dsimp only [Except.mapError]
    rw [runFrom_modify_bind, runFrom_bind, runFrom_orReport]
    cases workspace.create made path with
    | error error => exact ⟨_, rfl, rfl⟩
    | ok creation =>
      cases creation with
      | alreadyThere => exact ⟨_, rfl, rfl⟩
      | created filled => exact ⟨_, rfl, rfl⟩

theorem tree_create (workspace : Workspace) (path : String) (report : CreationError → Report)
    (state : State) : ((create workspace path report).runFrom state).2.tree =
      (workspace.scaffold state.tree path).2 := by
  obtain ⟨left, hcreate, hleft⟩ := runFrom_create workspace path report state
  rw [hcreate]
  exact hleft

theorem tree_locate (workspace : Workspace) (name : String) (state : State) :
    ((locate workspace name).runFrom state).2.tree =
      match workspace.resolve state.tree name with
      | .ok path =>
        if !state.tree.isFile path && isYes state.firstLine then (workspace.scaffold state.tree path).2
        else state.tree
      | .error _ => state.tree := by
  rw [locate, runFrom_bind, runFrom_resolve]
  cases workspace.resolve state.tree name with
  | error error => rfl
  | ok path =>
    dsimp only [Except.mapError]
    rw [runFrom_get_bind]
    cases state.tree.isFile path with
    | true => rfl
    | false =>
      rw [if_neg Bool.false_ne_true, runFrom_bind]
      obtain ⟨asked, hconfirm, hasked⟩ := runFrom_confirm
        ("Workflow '" ++ Path.fileName path ++ "' not found. Create new? [y/N]: ") state
      rw [hconfirm]
      dsimp only
      cases isYes state.firstLine with
      | false => exact hasked
      | true =>
        rw [if_pos rfl, tree_runFrom_bind fun _ => .pure path, tree_create, hasked]
        rfl

theorem tree_new (scriptPath : String) (environment : Environment) (name : String) (state : State) :
    ((perform scriptPath environment workspace (.new name)).runFrom state).2.tree =
      match workspace.resolve state.tree name with
      | .ok path => (workspace.scaffold state.tree path).2
      | .error _ => state.tree := by
  rw [perform, runFrom_bind, runFrom_resolve]
  cases workspace.resolve state.tree name with
  | error error => rfl
  | ok path =>
    dsimp only [Except.mapError]
    rw [tree_runFrom_bind fun _ => .pure 0, tree_create]

theorem tree_dry (scriptPath : String) (environment : Environment) (name : String) (settings : Settings)
    (state : State) :
    ((perform scriptPath environment workspace (.dry name settings)).runFrom state).2.tree =
      ((locate workspace name).runFrom state).2.tree := by
  rw [perform, tree_runFrom_bind fun _ => .bind (.printLine _) fun _ => .pure 0, script]
  refine tree_runFrom_bind (fun path => ?_) state
  exact .bind .get fun _ => .orReport _ _

theorem isYes_iff {answer : List Char} : isYes answer = true ↔
    Text.sameIgnoringAsciiCase (Text.trim answer) ['y'] = true ∨
      Text.sameIgnoringAsciiCase (Text.trim answer) ['y', 'e', 's'] = true :=
  Bool.or_eq_true_iff

/-- No file is lost, and none is new but the one that the name means, where nothing was. What it holds is
told of trees whose entries are all in directories of theirs. -/
structure Spares (name : String) (before after : FileTree) : Prop where
  keeps : before.Keeps after
  file {place : Location} {content : Content} : after.entry? place = some (.file content) →
    before.entry? place = some (.file content) ∨
      ∃ path, Workspace.here.resolve before name = .ok path ∧ before.exists? path = false ∧
        after.locate path = .ok place ∧ (before.Rooted → Workspace.here.NewContent before path content)
  refused {flaw : NameFlaw} : Workspace.checkName name = .error flaw → after = before

namespace Spares

theorem refl (name : String) (tree : FileTree) : Spares name tree tree where
  keeps := .refl tree
  file := .inl
  refused _ := rfl

theorem scaffold (h : Workspace.here.resolve before name = .ok path) :
    Spares name before (Workspace.here.scaffold before path).2 where
  keeps := (Workspace.scaffolds_scaffold ..).keeps
  file {place content} hfile := by
    rcases (Workspace.scaffolds_scaffold Workspace.here before path).file hfile with hold | hnew
    · exact .inl hold
    · obtain ⟨hmissing, hlocate, made, hfurnishes, hcontent⟩ := hnew
      -- The template was looked for in the tree with the new directories; none of these holds one.
      exact .inr ⟨path, h, hmissing, hlocate, fun hrooted =>
        hcontent.of_furnishes (by decide +kernel) (by decide +kernel) hfurnishes hrooted⟩
  refused {flaw} hname := by
    obtain ⟨hvalid, -⟩ := Workspace.resolve_eq_ok_iff.mp h
    rw [hname] at hvalid
    cases hvalid

end Spares

def treeLeft (scriptPath : String) (environment : Environment) (action : Action) (state : State) :
    FileTree :=
  ((perform scriptPath environment .here action).runFrom state).2.tree

theorem tree_new_again {scriptPath scriptPath' : String} {environment environment' : Environment}
    {state later : State}
    (h : later.tree =
      ((perform scriptPath environment workspace (.new name)).runFrom state).2.tree) :
    ((perform scriptPath' environment' workspace (.new name)).runFrom later).2.tree = later.tree := by
  rw [tree_new] at h ⊢
  cases hresolve : workspace.resolve later.tree name with
  | error error => rfl
  | ok path =>
    obtain ⟨hvalid, rfl⟩ := Workspace.resolve_eq_ok_iff.mp hresolve
    rw [Workspace.resolve_eq_ok_iff.mpr ⟨hvalid, rfl⟩] at h
    dsimp only at h ⊢
    rw [h]
    exact (Workspace.scaffolds_scaffold ..).again

theorem exists?_of_new {scriptPath : String} {environment : Environment} {state : State} {status : Nat}
    (h : ((perform scriptPath environment workspace (.new name)).runFrom state).1 = .ok status) :
    ∃ path, workspace.resolve state.tree name = .ok path ∧
      ((perform scriptPath environment workspace (.new name)).runFrom state).2.tree.exists? path = true := by
  rw [tree_new]
  rw [perform, runFrom_bind, runFrom_resolve] at h
  cases hresolve : workspace.resolve state.tree name with
  | error error =>
    rw [hresolve] at h
    cases h
  | ok path =>
    rw [hresolve] at h
    dsimp only [Except.mapError] at h
    obtain ⟨left, hcreate, -⟩ := runFrom_create workspace path .ofCreationError state
    rw [runFrom_bind, hcreate] at h
    have hends := Workspace.scaffolds_scaffold workspace state.tree path
    cases hresult : (workspace.scaffold state.tree path).1 with
    | error error =>
      rw [hresult] at h
      cases h
    | ok =>
      rw [hresult] at hends
      exact ⟨path, rfl, hends.exists?_of_ok⟩

theorem spares_new (scriptPath : String) (environment : Environment) (name : String) (state : State) :
    Spares name state.tree (treeLeft scriptPath environment (.new name) state) := by
  rw [treeLeft, tree_new]
  split
  · next path hresolve => exact .scaffold hresolve
  · exact .refl name state.tree

theorem spares_dry (scriptPath : String) (environment : Environment) (name : String) (settings : Settings)
    (state : State) :
    Spares name state.tree (treeLeft scriptPath environment (.dry name settings) state) ∧
      (treeLeft scriptPath environment (.dry name settings) state = state.tree ∨
        isYes state.firstLine = true) := by
  rw [treeLeft, tree_dry, tree_locate]
  split
  · next path hresolve =>
    split
    · next hasked => exact ⟨.scaffold hresolve, .inr (Bool.and_eq_true_iff.mp hasked).2⟩
    · exact ⟨.refl name state.tree, .inl rfl⟩
  · exact ⟨.refl name state.tree, .inl rfl⟩

theorem spares_start {scriptPath : String} {environment : Environment} {arguments : List String}
    {request : Request} (hrequest : Request.ofArguments environment arguments = .ok request)
    (haction : request.action = .new name ∨ ∃ settings, request.action = .dry name settings)
    (input : String) (tree : FileTree) :
    Spares name tree (start scriptPath environment arguments input tree).tree := by
  rcases tree_start scriptPath hrequest input tree with hsame | hperformed
  · rw [hsame]
    exact .refl name tree
  · rw [hperformed]
    rcases haction with hnew | ⟨settings, hdry⟩
    · rw [hnew]
      exact spares_new scriptPath environment name ⟨tree, input.toList, "", "", none⟩
    · rw [hdry]
      exact (spares_dry scriptPath environment name settings ⟨tree, input.toList, "", "", none⟩).1

theorem scaffolding_spares_files (scriptPath : String) (environment : Environment) (name : String)
    (state : State) :
    Spares name state.tree (treeLeft scriptPath environment (.new name) state) ∧
    (∀ scriptPath' environment' (later : State),
      treeLeft scriptPath' environment' (.new name)
          { later with tree := treeLeft scriptPath environment (.new name) state } =
        treeLeft scriptPath environment (.new name) state) ∧
    (∀ status, ((perform scriptPath environment .here (.new name)).runFrom state).1 = .ok status →
      ∃ path, Workspace.here.resolve state.tree name = .ok path ∧
        (treeLeft scriptPath environment (.new name) state).exists? path = true) ∧
    (∀ settings, Spares name state.tree (treeLeft scriptPath environment (.dry name settings) state) ∧
      (treeLeft scriptPath environment (.dry name settings) state = state.tree ∨
        Text.sameIgnoringAsciiCase (Text.trim state.firstLine) ['y'] = true ∨
        Text.sameIgnoringAsciiCase (Text.trim state.firstLine) ['y', 'e', 's'] = true)) ∧
    ∀ arguments request, Request.ofArguments environment arguments = .ok request →
      (request.action = .new name ∨ ∃ settings, request.action = .dry name settings) →
      ∀ input tree, Spares name tree (start scriptPath environment arguments input tree).tree := by
  refine ⟨spares_new .., ?_, ?_, ?_, ?_⟩
  · intro scriptPath' environment' later
    exact tree_new_again rfl
  · intro status hended
    exact exists?_of_new hended
  · intro settings
    rw [← isYes_iff]
    exact spares_dry scriptPath environment name settings state
  · intro arguments request hrequest haction input tree
    exact spares_start hrequest haction input tree

def templated : FileTree :=
  ⟨[(["w"], .directory), (["w", ".github"], .directory), (["w", ".github", "ghx_template.yml"], .directory),
    (["w", ".github", "ghx_template.yaml"], .file (.text "on: push\n"))], ["w"]⟩

theorem new_copies_template :
    let left := (start "ghx.sh" [] ["new", "ci"] "" templated).tree
    left.at? "./.github/workflows/ci.yml" = some (.file (.text "on: push\n")) ∧
      Spares "ci" templated left ∧
      Workspace.here.NewContent templated "./.github/workflows/ci.yml" (.text "on: push\n") := by
  obtain ⟨-, -, -, -, hstart⟩ :=
    scaffolding_spares_files "ghx.sh" [] "ci" ⟨templated, [], "", "", none⟩
  have hspares := hstart ["new", "ci"] ⟨⟨false, none, none⟩, .new "ci"⟩ (by decide +kernel) (.inl rfl) ""
    templated
  have hfile : (start "ghx.sh" [] ["new", "ci"] "" templated).tree.entry?
      ["w", ".github", "workflows", "ci.yml"] = some (.file (.text "on: push\n")) := by decide +kernel
  refine ⟨by decide +kernel, hspares, ?_⟩
  rcases hspares.file hfile with hbefore | ⟨path, hresolve, -, -, hcontent⟩
  · exact absurd hbefore (by decide +kernel)
  · have hpath : path = "./.github/workflows/ci.yml" :=
      Except.ok.inj (hresolve.symm.trans (by decide +kernel))
    exact hpath ▸ hcontent (by decide +kernel)

end WorkflowScript.Session
