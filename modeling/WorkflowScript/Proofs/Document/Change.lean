import WorkflowScript.Proofs.Document.Cut
import WorkflowScript.Proofs.Document.Replace

namespace WorkflowScript.Document.Node

section Child

variable {change : Node → Node} {key other : String}

def changeChild (change : Node → Node) (key : String) (node : Node) : Node :=
  match node.child key with
  | some child => node.setChild key (change child)
  | none => node

theorem kind_changeChild (node : Node) : (node.changeChild change key).kind = node.kind := by
  rw [changeChild]
  cases node.child key with
  | none => rfl
  | some child => exact kind_setChild node

theorem isSome_entries_changeChild (node : Node) :
    (node.changeChild change key).entries.isSome = node.entries.isSome := by
  rw [Bool.eq_iff_iff, entries_isSome_iff, entries_isSome_iff, kind_changeChild]

theorem child_changeChild_self (node : Node) :
    (node.changeChild change key).child key = (node.child key).map change := by
  rw [changeChild]
  cases hchild : node.child key with
  | none => exact hchild
  | some child => exact child_setChild_self hchild

theorem child_changeChild_of_ne (h : other ≠ key) (node : Node) :
    (node.changeChild change key).child other = node.child other := by
  rw [changeChild]
  cases node.child key with
  | none => rfl
  | some child => exact child_setChild_of_ne h node

end Child

def changeItems (change : Nat → Node → Node) : Node → Node
  | .sequence items => .sequence (items.mapIdx change)
  | .tagged tag node => .tagged tag (node.changeItems change)
  | node => node

theorem items_changeItems (change : Nat → Node → Node) : ∀ node : Node,
    (node.changeItems change).items = node.items.map (List.mapIdx change)
  | .null | .bool _ | .number _ | .string _ | .sequence _ | .mapping _ => rfl
  | .tagged _ node => items_changeItems change node

def withText (text : String) : Node → Node
  | .bool _ | .number _ | .string _ => .string text
  | .tagged tag node => .tagged tag (node.withText text)
  | node => node

theorem scalarText_withText (text : String) : ∀ node : Node,
    (node.withText text).scalarText = node.scalarText.map fun _ => text
  | .null | .bool _ | .number _ | .string _ | .sequence _ | .mapping _ => rfl
  | .tagged _ node => scalarText_withText text node

end WorkflowScript.Document.Node
