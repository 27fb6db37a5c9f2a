import Mathlib.Data.List.TakeDrop
import WorkflowScript.Command.Session

namespace WorkflowScript.Session

variable {α β ε : Type}

def runFrom (session : Session α) (state : State) : Except Halt α × State :=
  StateT.run (ExceptT.run session) state

theorem runFrom_bind (session : Session α) (next : α → Session β) (state : State) :
    (session >>= next).runFrom state = match session.runFrom state with
      | (.ok value, left) => (next value).runFrom left
      | (.error halt, left) => (.error halt, left) := by
  simp only [runFrom, ExceptT.run_bind, StateT.run_bind]
  cases StateT.run (ExceptT.run session) state with
  | mk result left => cases result <;> rfl

theorem runFrom_get_bind (next : State → Session β) (state : State) :
    (get >>= next).runFrom state = (next state).runFrom state := runFrom_bind get next state

theorem runFrom_modify_bind (change : State → State) (next : Unit → Session β) (state : State) :
    (modify change >>= next).runFrom state = (next ()).runFrom (change state) :=
  runFrom_bind (modify change) next state

theorem runFrom_orReport (report : ε → Report) (result : Except ε α) (state : State) :
    (orReport report result).runFrom state =
      (result.mapError fun error => .failed (report error), state) := by
  cases result <;> rfl

def State.firstLine (state : State) : List Char := state.input.takeWhile (· != '\n')

theorem runFrom_readLine (state : State) :
    readLine.runFrom state =
      (.ok state.firstLine, { state with input := (state.input.dropWhile (· != '\n')).drop 1 }) := by
  rw [readLine, runFrom_get_bind, List.span_eq_takeWhile_dropWhile]
  rfl

theorem runFrom_confirm (question : String) (state : State) :
    ∃ left, (confirm question).runFrom state = (.ok (isYes state.firstLine), left) ∧
      left.tree = state.tree := by
  rw [confirm, print, runFrom_modify_bind, runFrom_modify_bind, runFrom_bind, runFrom_readLine]
  exact ⟨_, rfl, rfl⟩

theorem runFrom_resolve (workspace : Workspace) (name : String) (state : State) :
    (resolve workspace name).runFrom state =
      ((workspace.resolve state.tree name).mapError fun error => .failed (.ofLoadError error), state) := by
  rw [resolve, runFrom_get_bind]
  exact runFrom_orReport Report.ofLoadError (workspace.resolve state.tree name) state

def LeavesTree (session : Session α) : Prop := ∀ state, (session.runFrom state).2.tree = state.tree

theorem tree_runFrom_bind {session : Session α} {next : α → Session β}
    (h : ∀ value, LeavesTree (next value)) (state : State) :
    ((session >>= next).runFrom state).2.tree = (session.runFrom state).2.tree := by
  rw [runFrom_bind]
  split
  · next value left hrun => rw [h value left, hrun]
  · next halt left hrun => rw [hrun]

namespace LeavesTree

theorem pure (value : α) : LeavesTree (Pure.pure value : Session α) := fun _ => rfl

theorem bind {session : Session α} {next : α → Session β} (h : LeavesTree session)
    (hnext : ∀ value, LeavesTree (next value)) : LeavesTree (session >>= next) := fun state =>
  (tree_runFrom_bind hnext state).trans (h state)

theorem get : LeavesTree MonadState.get := fun _ => rfl

theorem printLine (text : String) : LeavesTree (Session.printLine text) := fun _ => rfl

theorem orReport (report : ε → Report) (result : Except ε α) :
    LeavesTree (Session.orReport report result) := fun state => by rw [runFrom_orReport]

end LeavesTree

theorem runFrom_checkFilter (isAsked : Bool) (filter : String) (state : State) :
    ∃ result, (checkLogging.checkFilter isAsked filter).runFrom state = (result, state) := by
  rw [checkLogging.checkFilter]
  split
  · exact ⟨_, rfl⟩
  · exact ⟨_, rfl⟩
  · split
    · exact ⟨_, rfl⟩
    · exact ⟨_, rfl⟩

theorem runFrom_checkLogging (logging : Logging) (state : State) :
    ∃ result, (checkLogging logging).runFrom state = (result, state) := by
  rw [checkLogging]
  split
  · exact runFrom_checkFilter true _ state
  · exact runFrom_checkFilter false _ state
  · exact ⟨_, rfl⟩

theorem Outcome.tree_ofRun (request : Request) (ended : Except Halt Nat × State) :
    (ofRun request ended).tree = ended.2.tree := by
  obtain ⟨result, state⟩ := ended
  cases result with
  | ok status => rfl
  | error halt => cases halt <;> rfl

theorem tree_start (scriptPath : String) {environment : Environment} {arguments : List String}
    {request : Request} (h : Request.ofArguments environment arguments = .ok request) (input : String)
    (tree : FileTree) :
    (start scriptPath environment arguments input tree).tree = tree ∨
      (start scriptPath environment arguments input tree).tree =
        ((perform scriptPath environment .here request.action).runFrom
          ⟨tree, input.toList, "", "", none⟩).2.tree := by
  rw [start, h]
  dsimp only
  rw [Outcome.tree_ofRun]
  change ((serve scriptPath environment .here request).runFrom _).2.tree = tree ∨
    ((serve scriptPath environment .here request).runFrom _).2.tree = _
  rw [serve, runFrom_bind]
  obtain ⟨result, hlogging⟩ := runFrom_checkLogging request.logging ⟨tree, input.toList, "", "", none⟩
  rw [hlogging]
  cases result with
  | error halt => exact .inl rfl
  | ok => exact .inr rfl

end WorkflowScript.Session
