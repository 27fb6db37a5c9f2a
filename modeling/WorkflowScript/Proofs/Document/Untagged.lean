import WorkflowScript.Document.Node

namespace WorkflowScript.Document.Node

mutual

def untagged : Node → Node
  | .null => .null
  | .bool value => .bool value
  | .number value => .number value
  | .string value => .string value
  | .sequence items => .sequence (untaggedItems items)
  | .mapping entries => .mapping (untaggedEntries entries)
  | .tagged _ node => node.untagged
termination_by structural node => node

def untaggedItems : List Node → List Node
  | [] => []
  | item :: items => item.untagged :: untaggedItems items
termination_by structural items => items

def untaggedEntries : List (Node × Node) → List (Node × Node)
  | [] => []
  | entry :: entries => untaggedEntry entry :: untaggedEntries entries
termination_by structural entries => entries

def untaggedEntry : Node × Node → Node × Node
  | (key, value) => (key.untagged, value.untagged)
termination_by structural entry => entry

end

theorem untaggedItems_eq (items : List Node) : untaggedItems items = items.map untagged := by
  induction items with
  | nil => rfl
  | cons item items ih => rw [untaggedItems, ih, List.map_cons]

theorem untaggedEntries_eq (entries : List (Node × Node)) :
    untaggedEntries entries = entries.map fun e => (e.1.untagged, e.2.untagged) := by
  induction entries with
  | nil => rfl
  | cons entry entries ih => rw [untaggedEntries, ih, List.map_cons, untaggedEntry]

theorem kind_untagged : ∀ node : Node, node.untagged.kind = node.kind
  | .null | .bool _ | .number _ | .string _ | .sequence _ | .mapping _ => rfl
  | .tagged _ node => kind_untagged node

theorem scalarText_untagged : ∀ node : Node, node.untagged.scalarText = node.scalarText
  | .null | .bool _ | .number _ | .string _ | .sequence _ | .mapping _ => rfl
  | .tagged _ node => scalarText_untagged node

theorem isNull_untagged (node : Node) : node.untagged.isNull = node.isNull := by
  rw [isNull, isNull, kind_untagged]

theorem items_untagged : ∀ node : Node, node.untagged.items = node.items.map (List.map untagged)
  | .null | .bool _ | .number _ | .string _ | .mapping _ => rfl
  | .sequence items => congrArg some (untaggedItems_eq items)
  | .tagged _ node => items_untagged node

def untagValue (entry : String × Node) : String × Node := (entry.1, entry.2.untagged)

theorem keyed?_untagged (entry : Node × Node) :
    keyed? (entry.1.untagged, entry.2.untagged) = Option.map untagValue (keyed? entry) := by
  rw [keyed?, keyed?, scalarText_untagged, Option.map_map]
  rfl

theorem entries_untagged : ∀ node : Node,
    node.untagged.entries = node.entries.map (List.map untagValue)
  | .null | .bool _ | .number _ | .string _ | .sequence _ => rfl
  | .mapping entries => by
    rw [untagged, untaggedEntries_eq, Node.entries, List.filterMap_map, Node.entries, Option.map_some,
      List.map_filterMap]
    simp only [Function.comp_def, keyed?_untagged]
  | .tagged _ node => entries_untagged node

theorem isSome_entries_untagged (node : Node) :
    node.untagged.entries.isSome = node.entries.isSome := by
  rw [entries_untagged, Option.isSome_map]

theorem child_untagged (node : Node) (key : String) :
    node.untagged.child key = (node.child key).map untagged := by
  simp only [child, entries_untagged]
  cases node.entries with
  | none => rfl
  | some entries =>
    simp only [Option.map_some, Option.bind_eq_bind, Option.bind_some, List.find?_map]
    change ((entries.find? (·.1 == key)).map untagValue >>= _) = _
    cases entries.find? (·.1 == key) <;> rfl

theorem atPath_untagged (node : Node) (path : List String) :
    node.untagged.atPath path = (node.atPath path).map untagged := by
  induction path generalizing node with
  | nil => rfl
  | cons key path ih =>
    rw [atPath, child_untagged, atPath]
    cases node.child key with
    | none => rfl
    | some child => exact ih child

theorem bind_scalarText_untagged (node : Option Node) :
    (node.map untagged).bind scalarText = node.bind scalarText := by
  cases node with
  | none => rfl
  | some node => exact scalarText_untagged node

theorem filter_untagged {keep : Node → Bool} (hkeep : ∀ node, keep node.untagged = keep node)
    (node : Option Node) : (node.map untagged).filter keep = (node.filter keep).map untagged := by
  cases node with
  | none => rfl
  | some node =>
    rw [Option.map_some, Option.filter_some, Option.filter_some, hkeep]
    split <;> rfl

mutual

inductive Wrapped : Node → Node → Prop
  | null : Wrapped .null .null
  | bool (value : Bool) : Wrapped (.bool value) (.bool value)
  | number (value : Number) : Wrapped (.number value) (.number value)
  | string (value : String) : Wrapped (.string value) (.string value)
  | sequence {items items' : List Node} (h : WrappedItems items items') :
      Wrapped (.sequence items) (.sequence items')
  | mapping {entries entries' : List (Node × Node)} (h : WrappedEntries entries entries') :
      Wrapped (.mapping entries) (.mapping entries')
  | tagged (tag : String) {node node' : Node} (h : Wrapped node node') :
      Wrapped (.tagged tag node) (.tagged tag node')
  | wrap (tag : String) {node node' : Node} (h : Wrapped node node') : Wrapped node (.tagged tag node')

inductive WrappedItems : List Node → List Node → Prop
  | nil : WrappedItems [] []
  | cons {item item' : Node} {items items' : List Node} (h : Wrapped item item')
      (hrest : WrappedItems items items') : WrappedItems (item :: items) (item' :: items')

inductive WrappedEntries : List (Node × Node) → List (Node × Node) → Prop
  | nil : WrappedEntries [] []
  | cons {key key' value value' : Node} {entries entries' : List (Node × Node)}
      (hkey : Wrapped key key') (h : Wrapped value value') (hrest : WrappedEntries entries entries') :
      WrappedEntries ((key, value) :: entries) ((key', value') :: entries')

end

mutual

theorem Wrapped.untagged_eq {node node' : Node} : Wrapped node node' → node.untagged = node'.untagged
  | .null | .bool _ | .number _ | .string _ => rfl
  | .sequence h => congrArg Node.sequence h.untagged_eq
  | .mapping h => congrArg Node.mapping h.untagged_eq
  | .tagged _ h => h.untagged_eq
  | .wrap _ h => h.untagged_eq

theorem WrappedItems.untagged_eq {items items' : List Node} :
    WrappedItems items items' → untaggedItems items = untaggedItems items'
  | .nil => rfl
  | .cons h hrest => by rw [untaggedItems, untaggedItems, h.untagged_eq, hrest.untagged_eq]

theorem WrappedEntries.untagged_eq {entries entries' : List (Node × Node)} :
    WrappedEntries entries entries' → untaggedEntries entries = untaggedEntries entries'
  | .nil => rfl
  | .cons hkey h hrest => by
    rw [untaggedEntries, untaggedEntries, untaggedEntry, untaggedEntry, hkey.untagged_eq, h.untagged_eq,
      hrest.untagged_eq]

end

end WorkflowScript.Document.Node
