import WorkflowScript.Workspace.Load

namespace WorkflowScript

structure Workspace where
  root : String
  deriving DecidableEq, Repr

namespace Workspace

def here : Workspace := ⟨"."⟩

def extensions : List String := ["yml", "yaml"]

def settings (workspace : Workspace) : String := Path.join workspace.root ".github"

def workflows (workspace : Workspace) : String := Path.join workspace.settings "workflows"

def templateCandidates (workspace : Workspace) : List String :=
  extensions.map fun ending => Path.join workspace.settings ("ghx_template." ++ ending)

def template? (workspace : Workspace) (tree : FileTree) : Option String :=
  workspace.templateCandidates.find? tree.isFile

def stemAndExtension (name : String) : String × Option String :=
  let parts := name.toList.splitOn '.'
  let stem := (['.'] : List Char).intercalate parts.dropLast
  if name = "." ∨ name = ".." ∨ stem = [] then (name, none)
  else (.ofList stem, parts.getLast?.map .ofList)

def extension? (name : String) : Option String := (stemAndExtension name).2

def stem (name : String) : String := (stemAndExtension name).1

def isWorkflowExtension (ending : String) : Bool := extensions.contains (Text.lower ending)

def checkName (name : String) : Except NameFlaw Unit :=
  if Text.allBlank name.toList then .error .blank
  else if '/' ∈ name.toList ∨ '\\' ∈ name.toList then .error .separator
  else match extension? name with
    | none => .ok ()
    | some ending => if isWorkflowExtension ending then .ok () else .error (.unknownExtension ending)

def resolveValid (workspace : Workspace) (tree : FileTree) (name : String) : String :=
  if (extension? name).isSome then Path.join workspace.workflows name
  else
    let candidates := extensions.map fun ending => Path.join workspace.workflows (name ++ "." ++ ending)
    (candidates.find? tree.isFile).getD (Path.join workspace.workflows (name ++ ".yml"))

def resolve (workspace : Workspace) (tree : FileTree) (name : String) : Except LoadError String :=
  match checkName name with
  | .ok () => .ok (workspace.resolveValid tree name)
  | .error flaw => .error (.invalidName name flaw)

end Workspace

end WorkflowScript
