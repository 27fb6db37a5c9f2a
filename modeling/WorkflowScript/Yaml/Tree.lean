import WorkflowScript.Yaml.Fault
import WorkflowScript.Yaml.Token

namespace WorkflowScript.Yaml

inductive Tree (Ref : Type) where
  | aliasOf (ref : Ref)
  | scalar (tag : Option Tag) (text : List Char) (plain : Bool)
  | sequence (tag : Option Tag) (items : List (Tree Ref))
  | mapping (tag : Option Tag) (entries : List (Tree Ref × Tree Ref))
  | anchored (ref : Ref) (tree : Tree Ref)

abbrev NamedTree := Tree (List Char)

abbrev Handles := List (List Char × Tag)

namespace Handles

def defaults : Handles := [(['!'], ownMark), (['!', '!'], coreMark)]

def find? (handles : Handles) (handle : List Char) : Option Tag :=
  (List.find? (·.1 == handle) handles).map Prod.snd

def resolve (handles : Handles) (handle : List Char) (suffix : Tag) : Except Fault Tag :=
  if handle.isEmpty then .ok suffix
  else match handles.find? handle with
    | some leading => .ok (leading ++ suffix)
    | none => .error .tagHandleUnknown

end Handles

namespace Tree

def empty : NamedTree := .scalar none [] true

structure Properties where
  anchor : Option (List Char)
  tag : Option Tag

def Properties.areNone (p : Properties) : Bool := p.anchor.isNone && p.tag.isNone

def Properties.anchoring (p : Properties) (tree : NamedTree) : NamedTree :=
  match p.anchor with
  | some name => .anchored name tree
  | none => tree

def properties (handles : Handles) : List Token → Except Fault (Properties × List Token)
  | .anchor name :: .tag handle suffix :: rest =>
    (handles.resolve handle suffix).map fun tag => (⟨some name, some tag⟩, rest)
  | .tag handle suffix :: .anchor name :: rest =>
    (handles.resolve handle suffix).map fun tag => (⟨some name, some tag⟩, rest)
  | .anchor name :: rest => .ok (⟨some name, none⟩, rest)
  | .tag handle suffix :: rest =>
    (handles.resolve handle suffix).map fun tag => (⟨none, some tag⟩, rest)
  | rest => .ok (⟨none, none⟩, rest)

structure Place where
  inBlock : Bool
  unindented : Bool

def endsBlockEntry : List Token → Bool
  | .blockEntry :: _ => true
  | .blockEnd :: _ => true
  | _ => false

def endsUnindentedEntry : List Token → Bool
  | .blockEntry :: _ => true
  | .key :: _ => true
  | .value :: _ => true
  | .blockEnd :: _ => true
  | _ => false

def endsBlockValue : List Token → Bool
  | .key :: _ => true
  | .value :: _ => true
  | .blockEnd :: _ => true
  | _ => false

def endsFlowKey (closing : Token) : List Token → Bool
  | .value :: _ => true
  | .flowEntry :: _ => true
  | token :: _ => token == closing
  | [] => false

def endsFlowValue (closing : Token) : List Token → Bool
  | .flowEntry :: _ => true
  | token :: _ => token == closing
  | [] => false

def afterComma (first : Bool) : List Token → Except Fault (List Token)
  | .flowEntry :: rest => if first then .ok (.flowEntry :: rest) else .ok rest
  | rest => if first then .ok rest else .error .noFlowEntry

mutual

def node (handles : Handles) (place : Place) : Nat → List Token → Except Fault (NamedTree × List Token)
  | 0, _ => .error .stepsUsedUp
  | _ + 1, .aliasOf name :: rest => .ok (.aliasOf name, rest)
  | n + 1, tokens => do
    let (p, rest) ← properties handles tokens
    let (tree, rest) ← content handles place p n rest
    return (p.anchoring tree, rest)
termination_by structural n => n

def content (handles : Handles) (place : Place) (p : Properties) :
    Nat → List Token → Except Fault (NamedTree × List Token)
  | 0, _ => .error .stepsUsedUp
  | n + 1, tokens =>
    match tokens with
    | .scalar text style :: rest => .ok (.scalar p.tag text (style == .plain), rest)
    | .flowSequence :: rest =>
      (flowItems handles true n rest).map fun r => (.sequence p.tag r.1, r.2)
    | .flowMapping :: rest =>
      (flowEntries handles true n rest).map fun r => (.mapping p.tag r.1, r.2)
    | tokens =>
      if place.unindented && tokens.head? == some .blockEntry then
        (unindentedItems handles n tokens).map fun r => (.sequence p.tag r.1, r.2)
      else if place.inBlock && tokens.head? == some .blockSequence then
        (blockItems handles n tokens.tail).map fun r => (.sequence p.tag r.1, r.2)
      else if place.inBlock && tokens.head? == some .blockMapping then
        (blockEntries handles n tokens.tail).map fun r => (.mapping p.tag r.1, r.2)
      else if p.areNone then .error .noNode
      else .ok (.scalar p.tag [] true, tokens)
termination_by structural n => n

def blockItems (handles : Handles) : Nat → List Token → Except Fault (List NamedTree × List Token)
  | 0, _ => .error .stepsUsedUp
  | _ + 1, .blockEnd :: rest => .ok ([], rest)
  | n + 1, .blockEntry :: rest => do
    let (item, rest) ←
      if endsBlockEntry rest then .ok (empty, rest) else node handles ⟨true, false⟩ n rest
    let (items, rest) ← blockItems handles n rest
    return (item :: items, rest)
  | _ + 1, _ => .error .noEntry
termination_by structural n => n

def unindentedItems (handles : Handles) : Nat → List Token → Except Fault (List NamedTree × List Token)
  | 0, _ => .error .stepsUsedUp
  | n + 1, .blockEntry :: rest => do
    let (item, rest) ←
      if endsUnindentedEntry rest then .ok (empty, rest) else node handles ⟨true, false⟩ n rest
    let (items, rest) ← unindentedItems handles n rest
    return (item :: items, rest)
  | _ + 1, rest => .ok ([], rest)
termination_by structural n => n

def blockEntries (handles : Handles) : Nat → List Token → Except Fault (List (NamedTree × NamedTree) × List Token)
  | 0, _ => .error .stepsUsedUp
  | _ + 1, .blockEnd :: rest => .ok ([], rest)
  | n + 1, .key :: rest => do
    let (key, rest) ←
      if endsBlockValue rest then .ok (empty, rest) else node handles ⟨true, true⟩ n rest
    let (value, rest) ← blockValue handles n rest
    let (entries, rest) ← blockEntries handles n rest
    return ((key, value) :: entries, rest)
  | _ + 1, _ => .error .noKey
termination_by structural n => n

def blockValue (handles : Handles) : Nat → List Token → Except Fault (NamedTree × List Token)
  | 0, _ => .error .stepsUsedUp
  | n + 1, .value :: rest =>
    if endsBlockValue rest then .ok (empty, rest) else node handles ⟨true, true⟩ n rest
  | _ + 1, rest => .ok (empty, rest)
termination_by structural n => n

def flowItems (handles : Handles) (first : Bool) :
    Nat → List Token → Except Fault (List NamedTree × List Token)
  | 0, _ => .error .stepsUsedUp
  | _ + 1, .flowSequenceEnd :: rest => .ok ([], rest)
  | n + 1, tokens => do
    match ← afterComma first tokens with
    | .flowSequenceEnd :: rest => return ([], rest)
    | .key :: rest =>
      let (key, rest) ←
        if endsFlowKey .flowSequenceEnd rest then .ok (empty, rest.tail)
        else node handles ⟨false, false⟩ n rest
      let (value, rest) ← flowValue handles .flowSequenceEnd n rest
      let (items, rest) ← flowItems handles false n rest
      return (.mapping none [(key, value)] :: items, rest)
    | rest =>
      let (item, rest) ← node handles ⟨false, false⟩ n rest
      let (items, rest) ← flowItems handles false n rest
      return (item :: items, rest)
termination_by structural n => n

def flowEntries (handles : Handles) (first : Bool) :
    Nat → List Token → Except Fault (List (NamedTree × NamedTree) × List Token)
  | 0, _ => .error .stepsUsedUp
  | _ + 1, .flowMappingEnd :: rest => .ok ([], rest)
  | n + 1, tokens => do
    match ← afterComma first tokens with
    | .flowMappingEnd :: rest => return ([], rest)
    | .key :: rest =>
      let (key, rest) ←
        if endsFlowKey .flowMappingEnd rest then .ok (empty, rest)
        else node handles ⟨false, false⟩ n rest
      let (value, rest) ← flowValue handles .flowMappingEnd n rest
      let (entries, rest) ← flowEntries handles false n rest
      return ((key, value) :: entries, rest)
    | rest =>
      let (key, rest) ← node handles ⟨false, false⟩ n rest
      let (entries, rest) ← flowEntries handles false n rest
      return ((key, empty) :: entries, rest)
termination_by structural n => n

def flowValue (handles : Handles) (closing : Token) : Nat → List Token → Except Fault (NamedTree × List Token)
  | 0, _ => .error .stepsUsedUp
  | n + 1, .value :: rest =>
    if endsFlowValue closing rest then .ok (empty, rest) else node handles ⟨false, false⟩ n rest
  | _ + 1, rest => .ok (empty, rest)
termination_by structural n => n

end

structure Directives where
  version : Bool
  handles : Handles

def Directives.none : Directives := ⟨false, []⟩

def Directives.inForce (directives : Directives) : Handles := directives.handles ++ Handles.defaults

def directives (found : Directives) : List Token → Except Fault (Directives × List Token)
  | .version major minor :: rest =>
    if found.version then .error .directiveRepeated
    else if major = 1 ∧ (minor = 1 ∨ minor = 2) then directives { found with version := true } rest
    else .error .versionUnsupported
  | .tagHandle handle leading :: rest =>
    if (found.handles.find? handle).isSome then .error .directiveRepeated
    else directives { found with handles := found.handles ++ [(handle, leading)] } rest
  | rest => .ok (found, rest)

def startsExplicit : List Token → Bool
  | .version _ _ :: _ => true
  | .tagHandle _ _ :: _ => true
  | .documentStart :: _ => true
  | _ => false

def endsDocument : List Token → Bool
  | [] => true
  | .documentEnd :: _ => true
  | tokens => startsExplicit tokens

def nodeSteps (tokens : List Token) : Nat := 4 * tokens.length + 4

def document (tokens : List Token) : Except Fault (NamedTree × List Token) :=
  if startsExplicit tokens then do
    let (found, rest) ← directives .none tokens
    match rest with
    | .documentStart :: rest =>
      if endsDocument rest then return (empty, rest)
      else node found.inForce ⟨true, false⟩ (nodeSteps rest) rest
    | _ => .error .noDocumentStart
  else node Handles.defaults ⟨true, false⟩ (nodeSteps tokens) tokens

def ofTokens? (tokens : List Token) : Except Fault (Option NamedTree) :=
  if tokens.isEmpty then .ok none
  else do
    let (tree, rest) ← document tokens
    match rest.dropWhile (· == .documentEnd) with
    | [] => return some tree
    | rest => .error (if startsExplicit rest then .documentRepeated else .noDocumentStart)

end Tree

end WorkflowScript.Yaml
