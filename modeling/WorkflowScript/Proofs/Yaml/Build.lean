import Mathlib.Data.List.Forall2
import WorkflowScript.Yaml.Read

namespace WorkflowScript.Yaml

open Document

def Builds (depth : Nat) (tree : NumberedTree) (node : Node) : Prop :=
  ∀ targets used, Building.node targets depth tree used = .ok (node, used)

inductive BuildsEntries (depth : Nat) :
    List (Node × Node) → List (NumberedTree × NumberedTree) → List (Node × Node) → Prop
  | nil (before : List (Node × Node)) : BuildsEntries depth before [] before
  | cons {before nodes : List (Node × Node)} {key value : NumberedTree} {k v : Node}
      {rest : List (NumberedTree × NumberedTree)} (hkey : Builds depth key k)
      (hnew : Node.hasKey before k = false) (hvalue : Builds depth value v)
      (hrest : BuildsEntries depth (before ++ [(k, v)]) rest nodes) :
      BuildsEntries depth before ((key, value) :: rest) nodes

variable {depth : Nat} {text : List Char} {isPlain : Bool} {node : Node}

theorem Builds.scalar (h : Meaning.scalar none isPlain text = .ok node) (depth : Nat) :
    Builds depth (.scalar none text isPlain) node := by
  intro targets used
  have hcontent : ∀ inner, Building.content inner (.scalar none text isPlain) used = .ok (node, used) := by
    intro inner
    rw [Building.content, h]
    rfl
  cases depth with
  | zero => exact hcontent none
  | succ depth => exact hcontent (some (Building.node targets depth))

theorem BuildsEntries.entries_eq {before nodes : List (Node × Node)}
    {trees : List (NumberedTree × NumberedTree)} (h : BuildsEntries depth before trees nodes)
    (targets : Targets) (used : Nat) :
    Building.entries (Building.node targets depth) before trees used = .ok (nodes, used) := by
  induction h with
  | nil before => rfl
  | @cons before nodes key value k v rest hkey hnew hvalue _ ih =>
    simp only [Building.entries, bind, StateT.bind, Except.bind, hkey targets used, hnew, Bool.false_eq_true,
      if_false, hvalue targets used, ih]

theorem Builds.mapping {trees : List (NumberedTree × NumberedTree)} {nodes : List (Node × Node)}
    (h : BuildsEntries depth [] trees nodes) : Builds (depth + 1) (.mapping none trees) (.mapping nodes) := by
  intro targets used
  change (Building.entries (Building.node targets depth) [] trees >>= _) used = _
  simp only [bind, StateT.bind, Except.bind, h.entries_eq]
  rfl

theorem items_eq {trees : List NumberedTree} {nodes : List Node}
    (h : List.Forall₂ (Builds depth) trees nodes) (targets : Targets) (used : Nat) :
    Building.items (Building.node targets depth) trees used = .ok (nodes, used) := by
  induction h with
  | nil => rfl
  | cons hnode _ ih =>
    simp only [Building.items, bind, StateT.bind, Except.bind, hnode targets used, ih]
    rfl

theorem Builds.sequence {trees : List NumberedTree} {nodes : List Node}
    (h : List.Forall₂ (Builds depth) trees nodes) :
    Builds (depth + 1) (.sequence none trees) (.sequence nodes) := by
  intro targets used
  change (Building.items (Building.node targets depth) trees >>= _) used = _
  simp only [bind, StateT.bind, Except.bind, items_eq h]
  rfl

theorem mapping_of_failed {key value : NumberedTree} {rest : List (NumberedTree × NumberedTree)}
    {fault : Fault} (hkey : Builds depth key node)
    (hvalue : ∀ targets used, Building.node targets depth value used = .error fault) (targets : Targets)
    (used : Nat) :
    Building.node targets (depth + 1) (.mapping none ((key, value) :: rest)) used = .error fault := by
  have hnew : Node.hasKey [] node = false := rfl
  change (Building.entries (Building.node targets depth) [] ((key, value) :: rest) >>= _) used = _
  simp only [Building.entries, bind, StateT.bind, Except.bind, hkey targets used, hnew, Bool.false_eq_true,
    if_false, hvalue targets used]

theorem scalar_of_failed {fault : Fault} (h : Meaning.scalar none isPlain text = .error fault)
    (targets : Targets) (used : Nat) :
    Building.node targets (depth + 1) (.scalar none text isPlain) used = .error fault := by
  change Building.content (some (Building.node targets depth)) (.scalar none text isPlain) used = _
  rw [Building.content, h]
  rfl

theorem toNode_of_builds {tree : NumberedTree} (h : Builds depthLimit tree node) : tree.toNode = .ok node := by
  rw [Tree.toNode, StateT.run', h]
  rfl

end WorkflowScript.Yaml
