import WorkflowScript.Script.Compile
import WorkflowScript.Workspace.FileTree
import WorkflowScript.Yaml.Read

namespace WorkflowScript

inductive NameFlaw where
  | blank
  | separator
  | unknownExtension (ending : String)
  deriving DecidableEq, Repr

def NameFlaw.message : NameFlaw → String
  | .blank => "workflow name is required"
  | .separator => "workflow name must be a file name without any path separators"
  | .unknownExtension ending => "extension '." ++ ending ++ "' is not allowed, use .yml or .yaml"

inductive LoadError where
  | notFound (path : String)
  | malformed
  | unreadable (fault : Yaml.Fault)
  | invalidName (name : String) (flaw : NameFlaw)
  | file (fault : FileFault)
  deriving DecidableEq, Repr

def LoadError.message : LoadError → String
  | .notFound path => "workflow not found: " ++ path
  | .malformed => "workflow file is empty or malformed"
  | .unreadable fault => "failed to parse workflow: " ++ fault.message
  | .invalidName name flaw => "invalid workflow name '" ++ name ++ "': " ++ flaw.message
  | .file fault => "IO error: " ++ fault.message

inductive Failure where
  | load (error : LoadError)
  | compile (error : CompileError)
  deriving DecidableEq, Repr

def Failure.message : Failure → String
  | .load error => error.message
  | .compile error => error.message

namespace Workflow

def ofRoot (root : Document.Node) : Except LoadError Workflow :=
  match ofRoot? root with
  | some workflow => .ok workflow
  | none => .error .malformed

def ofText (text : String) : Except LoadError Workflow :=
  match Yaml.read text with
  | .ok root => ofRoot root
  | .error fault => .error (.unreadable fault)

def load (tree : FileTree) (path : String) : Except LoadError Workflow :=
  if tree.exists? path then
    match tree.readText path with
    | .ok text => ofText text
    | .error fault => .error (.file fault)
  else .error (.notFound path)

def compileFile (tree : FileTree) (path : String) (options : Script.Options) :
    Except Failure Script :=
  match load tree path with
  | .error error => .error (.load error)
  | .ok workflow =>
    match workflow.compile options with
    | .error error => .error (.compile error)
    | .ok script => .ok script

end Workflow

end WorkflowScript
