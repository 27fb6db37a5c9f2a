import WorkflowScript.Document.Number

namespace WorkflowScript.Document

inductive Node where
  | null
  | bool (value : Bool)
  | number (value : Number)
  | string (value : String)
  | sequence (items : List Node)
  | mapping (entries : List (Node × Node))
  | tagged (tag : String) (node : Node)
  deriving Inhabited

inductive Kind where
  | null
  | scalar
  | sequence
  | mapping
  deriving DecidableEq, Repr

namespace Node

def kind : Node → Kind
  | .null => .null
  | .bool _ => .scalar
  | .number _ => .scalar
  | .string _ => .scalar
  | .sequence _ => .sequence
  | .mapping _ => .mapping
  | .tagged _ node => node.kind

def scalarText : Node → Option String
  | .bool value => some (if value then "true" else "false")
  | .number value => some value.text
  | .string value => some value
  | .tagged _ node => node.scalarText
  | _ => none

def items : Node → Option (List Node)
  | .sequence items => some items
  | .tagged _ node => node.items
  | _ => none

def keyed? (entry : Node × Node) : Option (String × Node) :=
  entry.1.scalarText.map fun key => (key, entry.2)

def entries : Node → Option (List (String × Node))
  | .mapping entries => some (entries.filterMap keyed?)
  | .tagged _ node => node.entries
  | _ => none

def child (node : Node) (key : String) : Option Node := do
  let entries ← node.entries
  let entry ← entries.find? (·.1 == key)
  return entry.2

def atPath (node : Node) : List String → Option Node
  | [] => some node
  | key :: path => (node.child key).bind (·.atPath path)

def isNull (node : Node) : Bool := node.kind == .null

def tagName (tag : String) : List Char :=
  match tag.toList with
  | '!' :: c :: name => c :: name
  | name => name

mutual

def same : Node → Node → Bool
  | .null, .null => true
  | .bool a, .bool b => a == b
  | .number a, .number b => a.same b
  | .string a, .string b => a == b
  | .sequence a, .sequence b => sameItems a b
  | .mapping a, .mapping b => a.length == b.length && allIn b a
  | .tagged s a, .tagged t b => tagName s == tagName t && a.same b
  | _, _ => false
termination_by structural node => node

def sameItems : List Node → List Node → Bool
  | [], [] => true
  | a :: as, b :: bs => a.same b && sameItems as bs
  | _, _ => false
termination_by structural items => items

def allIn (others : List (Node × Node)) : List (Node × Node) → Bool
  | [] => true
  | entry :: entries => isIn others entry && allIn others entries
termination_by structural entries => entries

def isIn (others : List (Node × Node)) : Node × Node → Bool
  | (key, value) => others.any fun other => key.same other.1 && value.same other.2
termination_by structural entry => entry

end

def hasKey (entries : List (Node × Node)) (key : Node) : Bool := entries.any fun e => key.same e.1

def setEntry (key value : Node) : List (Node × Node) → List (Node × Node)
  | [] => [(key, value)]
  | e :: entries => if key.same e.1 then (e.1, value) :: entries else e :: setEntry key value entries

def ofEntries (entries : List (Node × Node)) : Node :=
  .mapping (entries.foldl (fun kept e => setEntry e.1 e.2 kept) [])

end Node

end WorkflowScript.Document
