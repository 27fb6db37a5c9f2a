import WorkflowScript.Proofs.Fragment.Block
import WorkflowScript.Proofs.Script.Sources

namespace WorkflowScript

namespace Fragment

open Line

theorem numbered_of_fragment_ok {target : Target} {bindings : Bindings} {text : String}
    {lines : List String} (h : transform target bindings text = .ok lines) :
    ∀ line ∈ lines, Numbered line.toList := by
  intro line hline
  by_cases hne : line = ""
  · rw [hne]
    exact numbered_of_notMem (by decide)
  · obtain ⟨raw, -, before, next, hok⟩ := exists_line_of_mem_lines h hline hne
    exact numbered_of_transform_ok hok line (by simp [Emitted.toLines])

theorem numbered_trimBlock {lines : List String} (h : ∀ line ∈ lines, Numbered line.toList) :
    ∀ line ∈ trimBlock lines, Numbered line.toList :=
  forall_mem_trimBlock (numbered_of_notMem List.not_mem_nil) (fun _ => numbered_trimStart)
    (fun _ => numbered_trimEnd) h

end Fragment

theorem Script.numbered_of_steps_ok {target : Target} {bindings : Bindings} {runs : List String}
    {fragments : List (List String)} (h : steps target bindings runs = .ok fragments) :
    ∀ line ∈ fragments.flatten, Line.Numbered line.toList := by
  intro line hline
  obtain ⟨fragment, hfragment, hmem⟩ := List.mem_flatten.mp hline
  obtain ⟨run, -, lines, hlines, rfl⟩ := exists_run_of_mem_steps h hfragment
  exact Fragment.numbered_trimBlock (Fragment.numbered_of_fragment_ok hlines) line hmem

end WorkflowScript
