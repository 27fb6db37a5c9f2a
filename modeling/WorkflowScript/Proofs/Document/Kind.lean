import WorkflowScript.Document.Node

namespace WorkflowScript.Document.Node

theorem scalarText_isSome_iff : ∀ node : Node, node.scalarText.isSome = true ↔ node.kind = .scalar
  | .null | .bool _ | .number _ | .string _ | .sequence _ | .mapping _ => by
    simp [scalarText, kind]
  | .tagged _ node => scalarText_isSome_iff node

theorem items_isSome_iff : ∀ node : Node, node.items.isSome = true ↔ node.kind = .sequence
  | .null | .bool _ | .number _ | .string _ | .sequence _ | .mapping _ => by
    simp [items, kind]
  | .tagged _ node => items_isSome_iff node

theorem entries_isSome_iff : ∀ node : Node, node.entries.isSome = true ↔ node.kind = .mapping
  | .null | .bool _ | .number _ | .string _ | .sequence _ | .mapping _ => by
    simp [entries, kind]
  | .tagged _ node => entries_isSome_iff node

theorem exists_scalarText_iff {node : Node} :
    (∃ text, node.scalarText = some text) ↔ node.kind = .scalar := by
  rw [← scalarText_isSome_iff, Option.isSome_iff_exists]

theorem exists_items_iff {node : Node} :
    (∃ items, node.items = some items) ↔ node.kind = .sequence := by
  rw [← items_isSome_iff, Option.isSome_iff_exists]

theorem exists_entries_iff {node : Node} :
    (∃ entries, node.entries = some entries) ↔ node.kind = .mapping := by
  rw [← entries_isSome_iff, Option.isSome_iff_exists]

theorem child_of_entries_eq_none {node : Node} (h : node.entries = none) (key : String) :
    node.child key = none := by
  simp [child, h]

end WorkflowScript.Document.Node
