import WorkflowScript.Shell.Channel
import WorkflowScript.Shell.Task

namespace WorkflowScript.Shell.Execution

variable {α β : Type} {s mid left : State}

def Gives (action : Execution α) (s : State) (value : α) (left : State) : Prop :=
  StateT.run (ExceptT.run action) s = (.ok value, left)

namespace Gives

theorem pure (value : α) : Gives (Pure.pure value) s value s := rfl

theorem bind {action : Execution α} {next : α → Execution β} {first : α} {value : β}
    (h : Gives action s first mid) (hnext : Gives (next first) mid value left) :
    Gives (action >>= next) s value left := by
  rw [Gives, ExceptT.run_bind, StateT.run_bind]
  rw [Gives] at h hnext
  rw [h]
  exact hnext

theorem process : Gives Execution.process s s.process s := rfl

theorem world : Gives Execution.world s s.world s := rfl

theorem changeProcess (change : Process → Process) :
    Gives (Execution.changeProcess change) s () { s with process := change s.process } := rfl

theorem changeWorld (change : World → World) :
    Gives (Execution.changeWorld change) s () { s with world := change s.world } := rfl

theorem setStatus (status : Nat) :
    Gives (Execution.setStatus status) s () { s with process := { s.process with status := status } } := rfl

theorem hasOption (name : String) : Gives (Execution.hasOption name) s (s.process.options.contains name) s := rfl

theorem hasHabit (name : String) : Gives (Execution.hasHabit name) s (s.process.habits.contains name) s := rfl

theorem tryCatch {action : Execution α} {value : α} (handle : Signal → Execution α)
    (h : Gives action s value left) : Gives (MonadExcept.tryCatch action handle) s value left := by
  have hrun : StateT.run action s = (.ok value, left) := h
  simp only [Gives, MonadExcept.tryCatch, tryCatchThe, MonadExceptOf.tryCatch, ExceptT.tryCatch]
  rw [ExceptT.run_mk, StateT.run_bind, hrun]
  rfl

theorem ensuring {action after : Execution Unit} (h : Gives action s () mid) (hafter : Gives after mid () left) :
    Gives (Execution.ensuring action after) s () left :=
  .bind (.tryCatch _ h) hafter

theorem mapM {α β : Type} {f : α → Execution β} {g : α → β} {items : List α}
    (h : ∀ item ∈ items, Gives (f item) s (g item) s) : Gives (items.mapM f) s (items.map g) s := by
  induction items with
  | nil => exact .pure []
  | cons item items ih =>
    obtain ⟨hitem, hitems⟩ := List.forall_mem_cons.mp h
    rw [List.mapM_cons]
    exact .bind hitem (.bind (ih hitems) (.pure _))

theorem write {descriptor number : Nat} (hdescriptor : s.process.descriptors.lookup descriptor = some number)
    (hchannel : s.world.channels[number]? = some .output) (text : Chars) :
    Gives (Execution.write descriptor text) s true
      { s with world := { s.world with output := text.reverseAux s.world.output } } := by
  have hnumber : Gives (channelNumber? descriptor) s (some number) s := by
    refine .bind .process ?_
    rw [hdescriptor]
    exact .pure _
  have hfound : Gives (channel? descriptor) s (some (number, .output)) s := by
    refine .bind hnumber (.bind .world ?_)
    rw [hchannel]
    exact .pure _
  exact .bind hfound (.bind (.changeWorld _) (.pure true))

end Gives

end WorkflowScript.Shell.Execution
