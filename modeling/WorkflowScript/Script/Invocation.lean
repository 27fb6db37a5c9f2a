import WorkflowScript.Script.Target

namespace WorkflowScript

inductive Host where
  | posix
  | windows (subsystem : Bool)
  deriving DecidableEq, Repr

inductive HostError where
  | interpreterOpen
  deriving DecidableEq, Repr

def HostError.message : HostError → String
  | .interpreterOpen => "On Windows, specify --cmd or --wsl."

namespace Invocation

def slash (c : Char) : Char := if c = '\\' then '/' else c

def rooted : List Char → List Char
  | '/' :: path => '/' :: path
  | path => '/' :: path

def mounted : List Char → List Char
  | drive :: ':' :: path =>
    if drive.isAlpha then "/mnt/".toList ++ drive.toLower :: rooted (path.map slash)
    else (drive :: ':' :: path).map slash
  | path => path.map slash

def mountedPath (path : String) : String := .ofList (mounted path.toList)

end Invocation

structure Invocation where
  program : String
  flags : List String
  script : String
  deriving DecidableEq, Repr

namespace Invocation

def forScript (target : Target) (host : Host) (script : String) : Except HostError Invocation :=
  match target, host with
  | .batch, _ => .ok ⟨"cmd.exe", ["/c"], script⟩
  | .shell, .windows true => .ok ⟨"wsl", ["bash", "-el"], mountedPath script⟩
  | .shell, .windows false => .error .interpreterOpen
  | .shell, .posix => .ok ⟨"/usr/bin/env", ["bash", "-el"], script⟩

def arguments (invocation : Invocation) : List String := invocation.flags ++ [invocation.script]

def describe (invocation : Invocation) : String :=
  " ".intercalate (invocation.program :: invocation.flags ++ ["\"" ++ invocation.script ++ "\""])

theorem slash_ne (c : Char) : slash c ≠ '\\' := by
  unfold slash
  split
  · decide
  · assumption

theorem map_slash_of_notMem {path : List Char} (h : '\\' ∉ path) : path.map slash = path := by
  induction path with
  | nil => rfl
  | cons c path ih =>
    simp only [List.mem_cons, not_or] at h
    rw [List.map_cons, ih h.2, slash, if_neg (Ne.symm h.1)]

end Invocation

end WorkflowScript
