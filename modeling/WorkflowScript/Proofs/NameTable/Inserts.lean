import Mathlib.Data.Finset.Card
import WorkflowScript.Proofs.NameTable

namespace WorkflowScript.NameTable

universe u
variable {α : Type u}

theorem get?_ofList (entries : List (String × α)) (name : String) :
    (ofList entries).get? name = (lastUnder entries (foldName name)).map Prod.snd := by
  induction entries using List.reverseRecOn with
  | nil => rfl
  | append_singleton entries e ih =>
    rw [ofList_append_singleton, get?_insert, lastUnder_append_singleton, ih]
    split <;> rfl

theorem lastUnder_eq_some_iff {entries : List (String × α)} {key : String} {e : String × α} :
    lastUnder entries key = some e ↔ foldName e.1 = key ∧ ∃ before after,
      entries = before ++ e :: after ∧ ∀ later ∈ after, foldName later.1 ≠ key := by
  rw [lastUnder, List.findRev?_eq_find?_reverse, List.find?_eq_some_iff_append]
  simp only [beq_iff_eq, List.reverse_eq_append_iff, List.reverse_cons, List.append_assoc,
    List.singleton_append]
  refine and_congr_right fun _ => ⟨?_, ?_⟩
  · rintro ⟨back, front, hentries, hback⟩
    refine ⟨front.reverse, back.reverse, hentries, fun later hlater => ?_⟩
    simpa using hback later (List.mem_reverse.mp hlater)
  · rintro ⟨before, after, hentries, hafter⟩
    refine ⟨after.reverse, before.reverse, by simpa using hentries, fun later hlater => ?_⟩
    simpa using hafter later (List.mem_reverse.mp hlater)

structure Shows (table : NameTable α) (entries : List (String × α)) : Prop where
  value : ∀ name, table.get? name =
    (entries.findRev? fun e => foldName e.1 == foldName name).map Prod.snd
  known : ∀ name, table.contains name = true ↔ ∃ value, table.get? name = some value
  size : table.size = (entries.map fun e => foldName e.1).toFinset.card
  isEmpty : table.isEmpty = true ↔ table.size = 0
  order : (table.toList.map fun e => foldName e.1) = (entries.map fun e => foldName e.1).eraseDups
  last : ∀ e ∈ table.toList,
    entries.findRev? (fun other => foldName other.1 == foldName e.1) = some e

end WorkflowScript.NameTable
