import WorkflowScript.Proofs.Document.Kind

namespace WorkflowScript.Document.Node

def keepItem (place : Nat) : Node → Node
  | .sequence items => .sequence items[place]?.toList
  | .tagged tag node => .tagged tag (node.keepItem place)
  | node => node

theorem items_keepItem (place : Nat) : ∀ node : Node,
    (node.keepItem place).items = node.items.map fun items => items[place]?.toList
  | .null | .bool _ | .number _ | .string _ | .sequence _ | .mapping _ => rfl
  | .tagged _ node => items_keepItem place node

def changeNamed (change : Nat → Node → Node) (place : Nat) : List (Node × Node) → List (Node × Node)
  | [] => []
  | e :: entries =>
    match e.1.scalarText with
    | some _ => (e.1, change place e.2) :: changeNamed change (place + 1) entries
    | none => e :: changeNamed change place entries

def mapNamed (change : Nat → Node → Node) : Node → Node
  | .mapping entries => .mapping (changeNamed change 0 entries)
  | .tagged tag node => .tagged tag (node.mapNamed change)
  | node => node

variable {change : Nat → Node → Node}

theorem filterMap_changeNamed (place : Nat) (entries : List (Node × Node)) :
    (changeNamed change place entries).filterMap keyed? =
      (entries.filterMap keyed?).mapIdx fun i e => (e.1, change (place + i) e.2) := by
  -- only an entry that can be named moves the place on
  induction entries generalizing place with
  | nil => rfl
  | cons e entries ih =>
    rw [changeNamed]
    cases htext : e.1.scalarText with
    | none =>
      have hnone : keyed? e = none := by simp [htext, keyed?]
      rw [List.filterMap_cons_none hnone, List.filterMap_cons_none hnone, ih]
    | some text =>
      have hsome : ∀ value, keyed? (e.1, value) = some (text, value) := by
        simp [htext, keyed?]
      rw [List.filterMap_cons_some (hsome _), List.filterMap_cons_some (hsome e.2), ih,
        List.mapIdx_cons]
      simp only [Nat.add_assoc, Nat.add_comm 1, Nat.add_zero]

theorem entries_mapNamed : ∀ node : Node, (node.mapNamed change).entries =
    node.entries.map (List.mapIdx fun i e => (e.1, change i e.2))
  | .null | .bool _ | .number _ | .string _ | .sequence _ => rfl
  | .mapping pairs => by
    simp only [mapNamed, Node.entries, filterMap_changeNamed, Nat.zero_add, Option.map_some]
  | .tagged _ node => entries_mapNamed node

end WorkflowScript.Document.Node
