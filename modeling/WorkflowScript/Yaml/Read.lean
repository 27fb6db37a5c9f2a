import WorkflowScript.Yaml.Lexer
import WorkflowScript.Yaml.Scalar.Meaning
import WorkflowScript.Yaml.Tree

namespace WorkflowScript.Yaml

open Document

abbrev Anchors := List (List Char × Nat)

namespace Anchors

def find? (anchors : Anchors) (name : List Char) : Option Nat :=
  (List.find? (·.1 == name) anchors).map Prod.snd

def declare (anchors : Anchors) (name : List Char) : Nat × Anchors :=
  (anchors.length, (name, anchors.length) :: anchors.filter (·.1 != name))

end Anchors

abbrev NumberedTree := Tree Nat

namespace Tree

mutual

def numbered (anchors : Anchors) : NamedTree → Except Fault (NumberedTree × Anchors)
  | .aliasOf name =>
    match anchors.find? name with
    | some number => .ok (.aliasOf number, anchors)
    | none => .error .aliasUnknown
  | .scalar tag text plain => .ok (.scalar tag text plain, anchors)
  | .sequence tag items => (numberedItems anchors items).map fun r => (.sequence tag r.1, r.2)
  | .mapping tag entries => (numberedEntries anchors entries).map fun r => (.mapping tag r.1, r.2)
  | .anchored name tree =>
    let (number, anchors) := anchors.declare name
    (numbered anchors tree).map fun r => (.anchored number r.1, r.2)
termination_by structural tree => tree

def numberedItems (anchors : Anchors) :
    List NamedTree → Except Fault (List NumberedTree × Anchors)
  | [] => .ok ([], anchors)
  | tree :: trees => do
    let (tree, anchors) ← numbered anchors tree
    let (trees, anchors) ← numberedItems anchors trees
    return (tree :: trees, anchors)
termination_by structural items => items

def numberedEntries (anchors : Anchors) :
    List (NamedTree × NamedTree) → Except Fault (List (NumberedTree × NumberedTree) × Anchors)
  | [] => .ok ([], anchors)
  | entry :: entries => do
    let (entry, anchors) ← numberedEntry anchors entry
    let (entries, anchors) ← numberedEntries anchors entries
    return (entry :: entries, anchors)
termination_by structural entries => entries

def numberedEntry (anchors : Anchors) :
    NamedTree × NamedTree → Except Fault ((NumberedTree × NumberedTree) × Anchors)
  | (key, value) => do
    let (key, anchors) ← numbered anchors key
    let (value, anchors) ← numbered anchors value
    return ((key, value), anchors)
termination_by structural entry => entry

end

mutual

def anchoredTrees : NumberedTree → List (Nat × NumberedTree)
  | .aliasOf _ => []
  | .scalar _ _ _ => []
  | .sequence _ items => anchoredItems items
  | .mapping _ entries => anchoredEntries entries
  | .anchored number tree => (number, tree) :: anchoredTrees tree
termination_by structural tree => tree

def anchoredItems : List NumberedTree → List (Nat × NumberedTree)
  | [] => []
  | tree :: trees => anchoredTrees tree ++ anchoredItems trees
termination_by structural items => items

def anchoredEntries : List (NumberedTree × NumberedTree) → List (Nat × NumberedTree)
  | [] => []
  | entry :: entries => anchoredEntry entry ++ anchoredEntries entries
termination_by structural entries => entries

def anchoredEntry : NumberedTree × NumberedTree → List (Nat × NumberedTree)
  | (key, value) => anchoredTrees key ++ anchoredTrees value
termination_by structural entry => entry

end

mutual

def size : NumberedTree → Nat
  | .aliasOf _ => 1
  | .scalar _ _ _ => 1
  | .sequence _ items => sizeItems items + 2
  | .mapping _ entries => sizeEntries entries + 2
  | .anchored _ tree => size tree
termination_by structural tree => tree

def sizeItems : List NumberedTree → Nat
  | [] => 0
  | tree :: trees => size tree + sizeItems trees
termination_by structural items => items

def sizeEntries : List (NumberedTree × NumberedTree) → Nat
  | [] => 0
  | entry :: entries => sizeEntry entry + sizeEntries entries
termination_by structural entries => entries

def sizeEntry : NumberedTree × NumberedTree → Nat
  | (key, value) => size key + size value
termination_by structural entry => entry

end

end Tree

def depthLimit : Nat := 128

def aliasFactor : Nat := 100

structure Targets where
  trees : List (Nat × NumberedTree)
  limit : Nat

def Targets.ofTree (tree : NumberedTree) : Targets :=
  ⟨tree.anchoredTrees.reverse, aliasFactor * tree.size⟩

def Targets.find? (targets : Targets) (number : Nat) : Option NumberedTree :=
  (List.find? (·.1 == number) targets.trees).map Prod.snd

abbrev Building := StateT Nat (Except Fault)

namespace Building

def fail {α : Type} (fault : Fault) : Building α := fun _ => .error fault

def useAlias (targets : Targets) (number : Nat) : Building NumberedTree := do
  let used ← get
  set (used + 1)
  if used + 1 > targets.limit then fail .aliasTooOften
  else match targets.find? number with
    | some tree => return tree
    | none => fail .aliasUnknown

def ownTag? : Option Tag → Option String
  | none => none
  | some tag =>
    if ownMark.isPrefixOf tag then
      let name := tag.drop ownMark.length
      (Text.Utf8.decode? (if name = [] then tag else name)).map .ofList
    else none

def keepTag (tag : Option Tag) (node : Node) : Node :=
  match ownTag? tag with
  | some name => .tagged name node
  | none => node

def items (inner : NumberedTree → Building Node) : List NumberedTree → Building (List Node)
  | [] => return []
  | tree :: trees => do
    let node ← inner tree
    let nodes ← items inner trees
    return node :: nodes

def entries (inner : NumberedTree → Building Node) (before : List (Node × Node)) :
    List (NumberedTree × NumberedTree) → Building (List (Node × Node))
  | [] => return before
  | (key, value) :: rest => do
    let key ← inner key
    if Node.hasKey before key then fail .keyRepeated
    else
      let value ← inner value
      entries inner (before ++ [(key, value)]) rest

def content (inner : Option (NumberedTree → Building Node)) : NumberedTree → Building Node
  | .scalar tag text plain => do
    let node ← (Meaning.scalar tag plain text : Except Fault Node)
    return keepTag tag node
  | .sequence tag trees =>
    match inner with
    | none => fail .tooDeep
    | some inner => do return keepTag tag (.sequence (← items inner trees))
  | .mapping tag trees =>
    match inner with
    | none => fail .tooDeep
    | some inner => do return keepTag tag (.mapping (← entries inner [] trees))
  | .aliasOf _ => fail .aliasUnknown
  | .anchored _ tree => content inner tree

def step (targets : Targets) (inner : Option (NumberedTree → Building Node)) :
    NumberedTree → Building Node
  | .aliasOf number => do content inner (← useAlias targets number)
  | tree => content inner tree

def node (targets : Targets) : Nat → NumberedTree → Building Node
  | 0 => step targets none
  | depth + 1 => step targets (some (node targets depth))

end Building

def Tree.toNode (tree : NumberedTree) : Except Fault Node :=
  (Building.node (.ofTree tree) depthLimit tree).run' 0

def read (text : String) : Except Fault Node := do
  let tokens ← tokens text.toList
  match ← Tree.ofTokens? tokens with
  | none => return .null
  | some tree =>
    let (tree, _) ← tree.numbered []
    tree.toNode

end WorkflowScript.Yaml
