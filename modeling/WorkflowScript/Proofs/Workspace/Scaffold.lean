import Mathlib.Data.List.Find
import WorkflowScript.Proofs.Outcome
import WorkflowScript.Proofs.Workspace.FileTree
import WorkflowScript.Workspace.Scaffold

namespace WorkflowScript.Workspace

open Outcome

variable {workspace : Workspace} {before after made filled : FileTree} {name path : String}
  {content : Content}

theorem resolveValid_of_keeps (workspace : Workspace) (h : before.Keeps after) (name : String) :
    after.isFile (workspace.resolveValid after name) = true ∨
      workspace.resolveValid after name = workspace.resolveValid before name := by
  rw [resolveValid, resolveValid]
  split
  · exact .inr rfl
  · dsimp only
    generalize extensions.map _ = candidates
    cases hafter : candidates.find? after.isFile with
    | some path => exact .inl (List.find?_some hafter)
    | none =>
      have hbefore : candidates.find? before.isFile = none := by
        rw [List.find?_eq_none] at hafter ⊢
        exact fun path hmem hfile => hafter path hmem (h.isFile hfile)
      rw [hbefore]
      exact .inr rfl

theorem resolve_eq_ok_iff : workspace.resolve before name = .ok path ↔
    checkName name = .ok () ∧ workspace.resolveValid before name = path := by
  rw [resolve]
  cases checkName name with
  | error flaw => simp
  | ok => simp

def firstTemplate (workspace : Workspace) : String := Path.join workspace.settings "ghx_template.yml"

def secondTemplate (workspace : Workspace) : String := Path.join workspace.settings "ghx_template.yaml"

inductive NewContent (workspace : Workspace) (tree : FileTree) (path : String) : Content → Prop
  | first {content : Content} (hfirst : tree.at? workspace.firstTemplate = some (.file content)) :
      NewContent workspace tree path content
  | second {content : Content} (hfirst : ∀ other, tree.at? workspace.firstTemplate ≠ some (.file other))
      (hsecond : tree.at? workspace.secondTemplate = some (.file content)) :
      NewContent workspace tree path content
  | starter (hfirst : ∀ other, tree.at? workspace.firstTemplate ≠ some (.file other))
      (hsecond : ∀ other, tree.at? workspace.secondTemplate ≠ some (.file other)) :
      NewContent workspace tree path (.text (Creation.starter (stem (Path.fileName path))))

theorem not_isFile_iff : ¬ before.isFile path = true ↔ ∀ content, before.at? path ≠ some (.file content) := by
  rw [FileTree.isFile_iff, not_exists]

theorem template?_eq_some_iff {template : String} : workspace.template? before = some template ↔
    (before.isFile workspace.firstTemplate = true ∧ workspace.firstTemplate = template) ∨
      (¬ before.isFile workspace.firstTemplate = true ∧
        before.isFile workspace.secondTemplate = true ∧ workspace.secondTemplate = template) := by
  have hcandidates : workspace.templateCandidates = [workspace.firstTemplate, workspace.secondTemplate] := rfl
  rw [template?, hcandidates, List.find?_cons]
  cases before.isFile workspace.firstTemplate with
  | true => simp
  | false => cases hsecond : before.isFile workspace.secondTemplate <;> simp [hsecond]

theorem template?_eq_none_iff : workspace.template? before = none ↔
    (∀ content, before.at? workspace.firstTemplate ≠ some (.file content)) ∧
      ∀ content, before.at? workspace.secondTemplate ≠ some (.file content) := by
  rw [← not_isFile_iff, ← not_isFile_iff, Option.eq_none_iff_forall_ne_some]
  simp only [ne_eq, template?_eq_some_iff]
  constructor
  · intro hnone
    have hfirst : ¬ before.isFile workspace.firstTemplate = true := fun h => hnone _ (.inl ⟨h, rfl⟩)
    exact ⟨hfirst, fun h => hnone _ (.inr ⟨hfirst, h, rfl⟩)⟩
  · rintro ⟨hfirst, hsecond⟩ template (⟨h, -⟩ | ⟨-, h, -⟩)
    · exact hfirst h
    · exact hsecond h

theorem NewContent.of_template {template : String} (htemplate : workspace.template? before = some template)
    (hcontent : before.at? template = some (.file content)) : workspace.NewContent before path content := by
  rcases template?_eq_some_iff.mp htemplate with ⟨-, rfl⟩ | ⟨hfirst, -, rfl⟩
  · exact .first hcontent
  · exact .second (not_isFile_iff.mp hfirst) hcontent

theorem NewContent.of_none (h : workspace.template? before = none) :
    workspace.NewContent before path (.text (Creation.starter (stem (Path.fileName path)))) :=
  .starter (template?_eq_none_iff.mp h).1 (template?_eq_none_iff.mp h).2

theorem NewContent.eq_starter (h : workspace.NewContent before path content)
    (hnone : workspace.template? before = none) :
    content = .text (Creation.starter (stem (Path.fileName path))) := by
  obtain ⟨hfirst, hsecond⟩ := template?_eq_none_iff.mp hnone
  cases h with
  | first h => exact absurd h (hfirst _)
  | second _ h => exact absurd h (hsecond _)
  | starter => rfl

theorem attempt_eq_ok_iff {α : Type} {step : CreationStep} {result : Except FileFault α} {value : α} :
    Creation.attempt step result = .ok value ↔ result = .ok value := by
  cases result with
  | error fault => simp [Creation.attempt]
  | ok value => simp [Creation.attempt]

theorem newContent_of_fill (hnone : made.exists? path = false) (h : workspace.fill made path = .ok filled) :
    ∃ place content, made.locate path = .ok place ∧ made.entry? place = none ∧
      workspace.NewContent made path content ∧ filled = made.set place (.file content) := by
  rw [fill] at h
  split at h
  · next template htemplate =>
    obtain ⟨content, hread, hwrite⟩ := bind_eq_ok_iff.mp (attempt_eq_ok_iff.mp h)
    obtain ⟨place, hlocate, hentry, rfl⟩ := FileTree.exists_of_write hnone hwrite
    have hcontent := FileTree.at?_of_read (List.find?_some htemplate) hread
    exact ⟨place, content, hlocate, hentry, .of_template htemplate hcontent, rfl⟩
  · next htemplate =>
    obtain ⟨place, hlocate, hentry, rfl⟩ := FileTree.exists_of_write hnone (attempt_eq_ok_iff.mp h)
    exact ⟨place, _, hlocate, hentry, .of_none htemplate, rfl⟩

def scaffold (workspace : Workspace) (tree : FileTree) (path : String) :
    Except CreationError Unit × FileTree :=
  match workspace.prepare tree with
  | .error error => (.error error, tree)
  | .ok made =>
    match workspace.create made path with
    | .error error => (.error error, made)
    | .ok .alreadyThere => (.ok (), made)
    | .ok (.created filled) => (.ok (), filled)

inductive Scaffolds (workspace : Workspace) (before : FileTree) (path : String) :
    Except CreationError Unit → FileTree → Prop
  | blocked {error : CreationError} (hprepare : workspace.prepare before = .error error) :
      Scaffolds workspace before path (.error error) before
  | present {made : FileTree} (hprepare : workspace.prepare before = .ok made)
      (hpath : made.exists? path = true) : Scaffolds workspace before path (.ok ()) made
  | failed {made : FileTree} {error : CreationError} (hprepare : workspace.prepare before = .ok made)
      (hpath : made.exists? path = false) (hfill : workspace.fill made path = .error error) :
      Scaffolds workspace before path (.error error) made
  | filled {made : FileTree} {place : Location} {content : Content}
      (hprepare : workspace.prepare before = .ok made) (hpath : made.exists? path = false)
      (hlocate : made.locate path = .ok place) (hnone : made.entry? place = none)
      (hcontent : workspace.NewContent made path content) :
      Scaffolds workspace before path (.ok ()) (made.set place (.file content))

theorem create_of_exists (hpath : made.exists? path = true) :
    workspace.create made path = .ok .alreadyThere := if_pos hpath

theorem create_of_missing (hpath : made.exists? path = false) :
    workspace.create made path = (workspace.fill made path).map .created := by
  rw [create, if_neg (by simp [hpath])]
  cases workspace.fill made path <;> rfl

theorem scaffolds_scaffold (workspace : Workspace) (before : FileTree) (path : String) :
    workspace.Scaffolds before path (workspace.scaffold before path).1
      (workspace.scaffold before path).2 := by
  rw [scaffold]
  cases hprepare : workspace.prepare before with
  | error error => exact .blocked hprepare
  | ok made =>
    dsimp only
    cases hpath : made.exists? path with
    | true =>
      rw [create_of_exists hpath]
      exact .present hprepare hpath
    | false =>
      rw [create_of_missing hpath]
      cases hfill : workspace.fill made path with
      | error error => exact .failed hprepare hpath hfill
      | ok filled =>
        obtain ⟨place, content, hlocate, hnone, hcontent, rfl⟩ := newContent_of_fill hpath hfill
        exact .filled hprepare hpath hlocate hnone hcontent

theorem furnishes_of_prepare (h : workspace.prepare before = .ok made) : before.Furnishes made :=
  FileTree.makeDirectories_furnishes (attempt_eq_ok_iff.mp h)

theorem prepare_again (h : workspace.prepare before = .ok made) (hkeeps : made.Keeps after) :
    workspace.prepare after = .ok after :=
  attempt_eq_ok_iff.mpr (FileTree.makeDirectories_again (attempt_eq_ok_iff.mp h) hkeeps)

namespace Scaffolds

variable {result : Except CreationError Unit}

theorem keeps (h : workspace.Scaffolds before path result after) : before.Keeps after := by
  cases h with
  | blocked => exact .refl before
  | present hprepare => exact (furnishes_of_prepare hprepare).toKeeps
  | failed hprepare => exact (furnishes_of_prepare hprepare).toKeeps
  | filled hprepare _ _ hnone => exact (furnishes_of_prepare hprepare).toKeeps.trans (.set hnone _)

theorem file {place : Location} (h : workspace.Scaffolds before path result after)
    (hfile : after.entry? place = some (.file content)) :
    before.entry? place = some (.file content) ∨
      before.exists? path = false ∧ after.locate path = .ok place ∧
        ∃ made, before.Furnishes made ∧ workspace.NewContent made path content := by
  cases h with
  | blocked => exact .inl hfile
  | present hprepare => exact .inl ((furnishes_of_prepare hprepare).file hfile)
  | failed hprepare => exact .inl ((furnishes_of_prepare hprepare).file hfile)
  | @filled made _ new hprepare hpath hlocate hnone hcontent =>
    have hfurnishes := furnishes_of_prepare hprepare
    rw [FileTree.entry?_set (FileTree.ne_nil_of_none hnone)] at hfile
    split at hfile
    · next hplace =>
      cases hfile
      have hmissing : before.exists? path = false := by
        rw [← Bool.not_eq_true] at hpath ⊢
        exact fun hbefore => hpath (hfurnishes.exists? hbefore)
      have hfound := FileTree.Keeps.locate (.set hnone (.file content)) hlocate
      exact .inr ⟨hmissing, hplace ▸ hfound, made, hfurnishes, hcontent⟩
    · exact .inl (hfurnishes.file hfile)

theorem exists?_of_ok (h : workspace.Scaffolds before path (.ok ()) after) : after.exists? path = true := by
  cases h with
  | present _ hpath => exact hpath
  | @filled made place new _ _ hlocate hnone =>
    have hfound := FileTree.Keeps.locate (.set hnone (.file new)) hlocate
    have hentry := FileTree.entry?_set_self hnone (.file new)
    exact FileTree.exists?_iff.mpr ⟨_, FileTree.at?_eq_some_iff.mpr ⟨place, hfound, hentry⟩⟩

end Scaffolds

theorem scaffold_of_exists (hprepare : workspace.prepare after = .ok after)
    (hpath : after.exists? path = true) : (workspace.scaffold after path).2 = after := by
  rw [scaffold, hprepare]
  dsimp only
  rw [create_of_exists hpath]

theorem Scaffolds.again {result : Except CreationError Unit}
    (h : workspace.Scaffolds before (workspace.resolveValid before name) result after) :
    (workspace.scaffold after (workspace.resolveValid after name)).2 = after := by
  have hgrown := resolveValid_of_keeps workspace h.keeps name
  have hmeans : after.exists? (workspace.resolveValid before name) = true →
      after.exists? (workspace.resolveValid after name) = true := by
    intro hpath
    rcases hgrown with hfile | hsame
    · exact FileTree.exists?_of_isFile hfile
    · rwa [hsame]
  cases h with
  | blocked hprepare => rw [scaffold, hprepare]
  | present hprepare hpath =>
    exact scaffold_of_exists (prepare_again hprepare (.refl _)) (hmeans hpath)
  | failed hprepare hpath hfill =>
    -- The name may mean another file now: one that could not be reached before its directory was made.
    rcases hgrown with hfile | hsame
    · exact scaffold_of_exists (prepare_again hprepare (.refl _)) (FileTree.exists?_of_isFile hfile)
    · rw [hsame, scaffold, prepare_again hprepare (.refl _)]
      dsimp only
      rw [create_of_missing hpath, hfill]
      rfl
  | filled hprepare hpath hlocate hnone hcontent =>
    have hcreated := (Scaffolds.filled hprepare hpath hlocate hnone hcontent).exists?_of_ok
    exact scaffold_of_exists (prepare_again hprepare (.set hnone _)) (hmeans hcreated)

section Templates

variable (hfirst : ".." ∉ Path.names workspace.firstTemplate)
  (hsecond : ".." ∉ Path.names workspace.secondTemplate)
include hfirst hsecond

theorem NewContent.of_furnishes (h : before.Furnishes made) (hrooted : before.Rooted)
    (hcontent : workspace.NewContent made path content) : workspace.NewContent before path content := by
  have hsame {template : String} (hdown : ".." ∉ Path.names template) (content : Content) :
      made.at? template = some (.file content) ↔ before.at? template = some (.file content) :=
    h.at?_file_iff hrooted hdown
  cases hcontent with
  | first hcopied => exact .first ((hsame hfirst _).mp hcopied)
  | second hnone hcopied =>
    exact .second (fun other ho => hnone other ((hsame hfirst other).mpr ho)) ((hsame hsecond _).mp hcopied)
  | starter hnone hnone' =>
    exact .starter (fun other ho => hnone other ((hsame hfirst other).mpr ho))
      fun other ho => hnone' other ((hsame hsecond other).mpr ho)

theorem Scaffolds.newContent {result : Except CreationError Unit}
    (h : workspace.Scaffolds before path result after) (hrooted : before.Rooted)
    (hpath : ".." ∉ Path.names path) (hmissing : before.exists? path = false)
    (hfile : after.at? path = some (.file content)) : workspace.NewContent before path content := by
  have hbefore : ∀ {made}, workspace.prepare before = .ok made → made.at? path ≠ some (.file content) := by
    intro made hprepare hmade
    have hthere := ((furnishes_of_prepare hprepare).at?_file_iff hrooted hpath).mp hmade
    exact Bool.false_ne_true (hmissing.symm.trans (FileTree.exists?_iff.mpr ⟨_, hthere⟩))
  cases h with
  | blocked => exact absurd (hmissing.symm.trans (FileTree.exists?_iff.mpr ⟨_, hfile⟩)) Bool.false_ne_true
  | present hprepare => exact absurd hfile (hbefore hprepare)
  | failed hprepare => exact absurd hfile (hbefore hprepare)
  | @filled made place new hprepare _ hlocate hnone hcontent =>
    have hfound := FileTree.Keeps.locate (.set hnone (.file new)) hlocate
    obtain ⟨other, hother, hentry⟩ := FileTree.at?_eq_some_iff.mp hfile
    rw [hfound] at hother
    cases hother
    rw [FileTree.entry?_set_self hnone] at hentry
    cases hentry
    exact hcontent.of_furnishes hfirst hsecond (furnishes_of_prepare hprepare) hrooted

end Templates

end WorkflowScript.Workspace
