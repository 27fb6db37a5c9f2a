import WorkflowScript.Proofs.Command.Session
import WorkflowScript.Proofs.Fragment.ShellCommands
import WorkflowScript.Proofs.Script.Spoken
import WorkflowScript.Proofs.Text.Utf8
import WorkflowScript.Proofs.Workflow.Starter

namespace WorkflowScript

open Creation

namespace Session

variable {scriptPath : String} {environment : Environment} {workspace : Workspace} {name path : String}
  {settings : Settings} {script : Script} {state : State} {text : List Char}

def State.shown (state : State) (text : String) : State := { state with output := state.output ++ text }

def State.told (state : State) (text : String) : State := { state.shown text with input := [] }

theorem State.shown_shown (state : State) (front text : String) :
    (state.shown front).shown text = state.shown (front ++ text) := by
  rw [shown, shown, shown, String.append_assoc]

theorem State.told_shown (state : State) (front text : String) :
    (state.shown front).told text = state.told (front ++ text) := by
  rw [told, shown_shown]
  rfl

theorem runFrom_runShell (hshell : findsShell environment = true) (scriptPath text : String) (state : State) :
    (runShell scriptPath environment text).runFrom state =
      let outcome := Shell.run ⟨state.tree, Text.Utf8.encode (inputLeft state), environment⟩ scriptPath text
      (.ok outcome.status, { state with
        tree := outcome.files, input := []
        output := state.output ++ .ofList (Text.Utf8.decodeLossy outcome.output)
        errors := state.errors ++ .ofList (Text.Utf8.decodeLossy outcome.errors) }) := by
  rw [runShell, hshell]
  rfl

theorem runFrom_runShell_of_speaks (hshell : findsShell environment = true)
    (htarget : script.options.target = .shell) (h : Script.Speaks script.lines text) (scriptPath : String)
    (state : State) :
    (runShell scriptPath environment script.body).runFrom state = (.ok 0, state.told (.ofList text)) := by
  rw [runFrom_runShell hshell, Script.run_body htarget h]
  dsimp only
  rw [Text.Utf8.decodeLossy_encode]
  change (_, { state with input := [], output := _, errors := state.errors ++ "" }) = _
  rw [String.append_empty]
  rfl

section Run

variable (hresolve : workspace.resolve state.tree name = .ok path) (hfile : state.tree.isFile path = true)
include hresolve hfile

theorem runFrom_locate : (locate workspace name).runFrom state = (.ok path, state) := by
  rw [locate, runFrom_bind, runFrom_resolve, hresolve]
  dsimp only [Except.mapError]
  rw [runFrom_get_bind, if_pos hfile]
  rfl

variable (hcompile : Workflow.compileFile state.tree path settings.options = .ok script)
include hcompile

theorem runFrom_script : (Session.script workspace name settings).runFrom state = (.ok script, state) := by
  rw [Session.script, runFrom_bind, runFrom_locate hresolve hfile]
  dsimp only
  rw [runFrom_get_bind, hcompile]
  rfl

omit hresolve hfile hcompile in
theorem runFrom_printLine_bind {α : Type} (text : String) (next : Unit → Session α) (state : State) :
    (printLine text >>= next).runFrom state = (next ()).runFrom (state.shown (text ++ "\n")) := by
  rw [runFrom_bind]
  rfl

def announcement (scriptPath : String) : String :=
  let invocation : Invocation := ⟨"/usr/bin/env", ["bash", "-el"], scriptPath⟩
  ruleLine ++ "\n" ++ (invocation.describe ++ "\n") ++ (ruleLine ++ "\n")

theorem runFrom_run (hbatch : settings.batch = false) (htarget : script.options.target = .shell)
    (hshell : findsShell environment = true) (h : Script.Speaks script.lines text) (scriptPath : String) :
    (run scriptPath environment workspace name settings).runFrom state =
      (.ok 0, state.told (announcement scriptPath ++ .ofList text)) := by
  rw [run, hbatch]
  change (Session.script workspace name settings >>= _).runFrom state = _
  rw [runFrom_bind, runFrom_script hresolve hfile hcompile]
  dsimp only
  rw [htarget, runFrom_bind, runFrom_orReport]
  dsimp only [Invocation.forScript, Except.mapError]
  rw [runFrom_printLine_bind, runFrom_printLine_bind, runFrom_printLine_bind,
    runFrom_runShell_of_speaks hshell htarget h, State.shown_shown, State.shown_shown, State.told_shown]
  rfl

end Run

end Session

end WorkflowScript
