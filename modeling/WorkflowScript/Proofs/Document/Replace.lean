import WorkflowScript.Proofs.Document.Kind

namespace WorkflowScript.Document.Node

def replaceFirst (key : String) (value : Node) : List (Node × Node) → List (Node × Node)
  | [] => []
  | e :: entries =>
    if e.1.scalarText = some key then (e.1, value) :: entries else e :: replaceFirst key value entries

def setChild : Node → String → Node → Node
  | .mapping entries, key, value => .mapping (replaceFirst key value entries)
  | .tagged tag node, key, value => .tagged tag (node.setChild key value)
  | node, _, _ => node

variable {key other : String} {value : Node}

theorem kind_setChild : ∀ node : Node, (node.setChild key value).kind = node.kind
  | .null | .bool _ | .number _ | .string _ | .sequence _ | .mapping _ => rfl
  | .tagged _ node => kind_setChild node

theorem find?_replaceFirst (entries : List (Node × Node)) :
    ((replaceFirst key value entries).filterMap keyed?).find? (·.1 == other) =
      ((entries.filterMap keyed?).find? (·.1 == other)).map fun e =>
        if other = key then (e.1, value) else e := by
  induction entries with
  | nil => rfl
  | cons e entries ih =>
    cases htext : e.1.scalarText with
    | none =>
      have hnone : keyed? e = none := by simp [htext, keyed?]
      rw [replaceFirst, if_neg (by simp [htext]), List.filterMap_cons_none hnone, ih,
        List.filterMap_cons_none hnone]
    | some text =>
      have hsome : keyed? e = some (text, e.2) := by simp [htext, keyed?]
      by_cases hkey : text = key
      · subst hkey
        have hvalue : keyed? (e.1, value) = some (text, value) := by simp [htext, keyed?]
        rw [replaceFirst, if_pos htext, List.filterMap_cons_some hvalue, List.filterMap_cons_some hsome]
        by_cases hother : text = other
        · simp [hother]
        · simp [hother, Ne.symm hother]
      · rw [replaceFirst, if_neg (by simpa [htext] using hkey), List.filterMap_cons_some hsome,
          List.filterMap_cons_some hsome]
        by_cases hother : text = other
        · simp [← hother, hkey]
        · simp [hother, ih]

theorem child_setChild : ∀ node : Node, (node.setChild key value).child other =
    (node.child other).map fun old => if other = key then value else old
  | .null | .bool _ | .number _ | .string _ | .sequence _ => rfl
  | .mapping entries => by
    have h := @find?_replaceFirst key other value entries
    simp only [child, setChild, Node.entries, Option.bind_eq_bind, Option.bind_some, h]
    cases (entries.filterMap keyed?).find? (·.1 == other) with
    | none => rfl
    | some e => by_cases hkey : other = key <;> simp [hkey]
  | .tagged _ node => child_setChild node

theorem child_setChild_of_ne (h : other ≠ key) (node : Node) :
    (node.setChild key value).child other = node.child other := by
  rw [child_setChild]
  simp [h]

theorem child_setChild_self {node old : Node} (h : node.child key = some old) :
    (node.setChild key value).child key = some value := by
  rw [child_setChild, h]
  simp

def setPath (value : Node) : List String → Node → Node
  | [], _ => value
  | key :: path, node =>
    match node.child key with
    | some child => node.setChild key (setPath value path child)
    | none => node

theorem child_setPath_of_ne (h : other ≠ key) (path : List String) (node : Node) :
    (setPath value (key :: path) node).child other = node.child other := by
  rw [setPath]
  cases node.child key with
  | none => rfl
  | some child => exact child_setChild_of_ne h node

theorem atPath_setPath {path : List String} {node old : Node} (h : node.atPath path = some old) :
    (setPath value path node).atPath path = some value := by
  induction path generalizing node with
  | nil => rfl
  | cons key path ih =>
    obtain ⟨child, hchild, hrest⟩ := Option.bind_eq_some_iff.mp h
    rw [setPath, hchild, atPath, child_setChild_self hchild, Option.bind_some, ih hrest]

end WorkflowScript.Document.Node
