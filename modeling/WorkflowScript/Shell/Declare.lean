import WorkflowScript.Shell.Options
import WorkflowScript.Shell.Parameter
import WorkflowScript.Shell.Quote

namespace WorkflowScript.Shell

inductive Declared where
  | word (text : Chars)
  | list (name : Chars) (appending : Bool) (items : List (Option Chars × Chars))
  deriving DecidableEq, Repr

structure NamedValue where
  name : Chars
  subscript : Option Chars
  appending : Bool
  value : Option Chars
  deriving DecidableEq, Repr

namespace NamedValue

def read (text : Chars) : NamedValue :=
  let name := text.takeWhile isNameChar
  let rest := text.drop name.length
  let (subscript, rest) := match rest with
    | '[' :: more =>
      match Arithmetic.bracketed? 0 more with
      | some (subscript, rest) => (some subscript, rest)
      | none => (none, rest)
    | rest => (none, rest)
  match rest with
  | '=' :: value => ⟨name, subscript, false, some value⟩
  | '+' :: '=' :: value => ⟨name, subscript, true, some value⟩
  | [] => ⟨name, subscript, false, none⟩
  | _ => ⟨text, none, false, none⟩

end NamedValue

structure Declaration where
  command : String
  isLocal : Bool
  exports : Option Bool
  locks : Bool
  isNumber : Option Bool
  capitals : Option (Option Bool)
  isList : Bool
  isTable : Bool

namespace Execution

def succeeds (action : Execution Unit) : Execution Bool :=
  tryCatch (do action; return true) fun signal =>
    match signal with
    | .discard false => return false
    | signal => throw signal

def invalidIdentifier (command : String) (name : Chars) : Execution Bool := do
  complainOf command ("\x60".toList ++ name ++ "': not a valid identifier".toList)
  return false

def shapedValue (declaration : Declaration) (old : Option Value) : Option Value :=
  if declaration.isTable then
    match old with
    | some (.table items) => some (.table items)
    | some (.text chars) => some (.table [(['0'], chars)])
    | _ => some (.table [])
  else if declaration.isList then
    match old with
    | none => some (.list [])
    | some value => some (.list value.numbered)
  else old

def prepare (declaration : Declaration) (name : Chars) : Execution Unit := do
  if declaration.isLocal then
    let old := (← variableAt? name).getD .undeclared
    let isHidden := match (← process).frames with
      | frame :: _ => frame.any (·.1 == name)
      | [] => true
    unless isHidden do
      hide name
      putVariable name { Variable.undeclared with isExported := old.isExported, isReadOnly := old.isReadOnly }
  let v := (← variableAt? name).getD .undeclared
  if v.isReadOnly ∧ declaration.isLocal = true then refuseChange name
  putVariable name
    { v with
      value := shapedValue declaration v.value
      isExported := declaration.exports.getD v.isExported
      isNumber := declaration.isNumber.getD v.isNumber
      capitals := declaration.capitals.getD v.capitals }

def lock (declaration : Declaration) (name : Chars) : Execution Unit := do
  if declaration.locks then
    let v := (← variableAt? name).getD .undeclared
    putVariable name { v with isReadOnly := true }

def assignItems (name : Chars) (appending : Bool) (items : List (Option Chars × Chars)) : Execution Unit := do
  let v := (← variableAt? name).getD .undeclared
  if v.isReadOnly then refuseChange name
  let old := if appending then v.value else none
  let start : Value := match v.value with
    | some (.table _) =>
      match old with
      | some (.table items) => .table items
      | _ => .table []
    | _ => .list ((old.map Value.numbered).getD [])
  putVariable name { v with value := some start }
  let byKey : Bool := match start with
    | .table _ => true
    | _ => false
  let top := start.numbered.foldl (fun n item => max n (item.1 + 1)) 0
  if byKey ∧ items.all (fun item => item.1.isNone) = true then assignPairs (items.map Prod.snd)
  else assignFrom top items
where
  assignPairs : List Chars → Execution Unit
    | [] => return ()
    | [key] => assign name (some key) false []
    | key :: value :: rest => do
      assign name (some key) false value
      assignPairs rest
  assignFrom (next : Nat) : List (Option Chars × Chars) → Execution Unit
    | [] => return ()
    | (none, text) :: rest => do
      assign name (some (ofNat next)) false text
      assignFrom (next + 1) rest
    | (some key, text) :: rest => do
      match ← slot? name (some key) with
      | some slot =>
        assign name (some key) false text
        assignFrom ((slot.number.getD 0) + 1) rest
      | none =>
        badSubscript ('[' :: key ++ "]=".toList ++ text)
        assignFrom next rest

def declareOne (declaration : Declaration) : Declared → Execution Bool
  | .list name appending items =>
    succeeds do
      prepare { declaration with isList := !declaration.isTable } name
      assignItems name appending items
      lock declaration name
  | .word text => do
    let named := NamedValue.read text
    if !isName named.name then invalidIdentifier declaration.command text
    else
      succeeds do
        if named.value.isSome ∧ (← variableAt? named.name).any Variable.isReadOnly = true then
          refuseChange named.name
        prepare declaration named.name
        match named.value with
        | some value => assign named.name named.subscript named.appending value
        | none => pure ()
        lock declaration named.name

def inDoubleQuotes (text : Chars) : Chars :=
  if text.any fun c => c < ' ' || '\x7f' ≤ c then Quote.withBackslashes.ansi text
  else
    '"' :: text.flatMap (fun c => if c = '"' ∨ c = '$' ∨ c = '\\' ∨ c = backtick then ['\\', c] else [c]) ++ ['"']

def attributeLetters (v : Variable) : Chars :=
  (match v.value with
    | some (.list _) => ['a']
    | some (.table _) => ['A']
    | _ => []) ++
  (if v.isNumber then ['i'] else []) ++ (if v.isReadOnly then ['r'] else []) ++
  (if v.isExported then ['x'] else []) ++
  match v.capitals with
  | some true => ['u']
  | some false => ['l']
  | none => []

def declarationText (name : Chars) (v : Variable) : Chars :=
  let letters := attributeLetters v
  let item (key text : Chars) : Chars := '[' :: key ++ "]=".toList ++ inDoubleQuotes text
  let value := match v.value with
    | none => []
    | some (.text text) => '=' :: inDoubleQuotes text
    | some (.list items) =>
      if items.isEmpty then [] else
      "=(".toList ++ [' '].intercalate (items.map fun i => item (ofNat i.1) i.2) ++ [')']
    | some (.table items) =>
      if items.isEmpty then [] else "=(".toList ++ items.flatMap (fun i => item i.1 i.2 ++ [' ']) ++ [')']
  "declare -".toList ++ (if letters.isEmpty then ['-'] else letters) ++ ' ' :: name ++ value

def printDeclarations (accepts : Variable → Bool) : Execution Unit := do
  let found := (← process).store.filter fun e => accepts e.2
  let sorted := found.mergeSort fun a b => !decide (b.1 < a.1)
  for (name, v) in sorted do printLine (declarationText name v)

structure DeclareOptions where
  on : Chars
  off : Chars
  rest : List Declared
  refused : Option Char

def declareOptions (known : String) : List Declared → DeclareOptions
  | .word (mark :: c :: letters) :: more =>
    if (mark = '-' ∨ mark = '+') ∧ ¬(mark = '-' ∧ c = '-' ∧ letters = []) then
      let found := declareOptions known more
      match (c :: letters).find? fun c => !known.toList.contains c with
      | some c => ⟨[], [], [], some c⟩
      | none =>
        if mark = '-' then { found with on := c :: letters ++ found.on }
        else { found with off := c :: letters ++ found.off }
    else if mark = '-' ∧ c = '-' ∧ letters = [] then ⟨[], [], more, none⟩
    else ⟨[], [], .word (mark :: c :: letters) :: more, none⟩
  | arguments => ⟨[], [], arguments, none⟩

def refuseOption (command : String) (c : Char) : Execution Nat := do
  complainOf command (['-', c] ++ ": invalid option".toList)
  return 2

def showNamed (command : String) (names : List Declared) : Execution Nat := do
  let shown ← names.mapM fun name => do
    match name with
    | .word text =>
      match ← variableAt? text with
      | some v =>
        printLine (declarationText text v)
        return true
      | none =>
        complainOf command (text ++ ": not found".toList)
        return false
    | .list _ _ _ => return false
  return if shown.all id then 0 else 1

def declareAll (declaration : Declaration) (arguments : List Declared) : Execution Nat := do
  let done ← arguments.mapM (declareOne declaration)
  return if done.all id then 0 else 1

def functionsAreThere (names : List Declared) : Execution Nat := do
  let functions := (← process).functions
  let isThere (name : Declared) : Bool := match name with
    | .word text => functions.any (·.1 == text)
    | .list _ _ _ => false
  return if names.all isThere then 0 else 1

def switched (found : DeclareOptions) (c : Char) : Option Bool :=
  if found.on.contains c then some true else if found.off.contains c then some false else none

def declareWith (command : String) (arguments : List Declared) : Execution Nat := do
  let inFunction := !(← process).frames.isEmpty
  if command = "local" ∧ inFunction = false then
    complainOf command "can only be used in a function".toList
    return 1
  let found := declareOptions "aAfFgiIlnprtux" arguments
  match found.refused with
  | some c => refuseOption command c
  | none =>
    if found.on.contains 'f' || found.on.contains 'F' then return ← functionsAreThere found.rest
    if found.rest.isEmpty then
      let isLocal (name : Chars) : Execution Bool := do
        return ((← process).frames.head?.getD []).any (·.1 == name)
      if command = "local" then
        for (name, v) in (← process).store do
          if ← isLocal name then printLine (declarationText name v)
      else
        printDeclarations fun v =>
          (!found.on.contains 'x' || v.isExported) && (!found.on.contains 'r' || v.isReadOnly)
      return 0
    if found.on.contains 'p' then return ← showNamed command found.rest
    let capitals := match switched found 'u', switched found 'l' with
      | some true, some true => some none
      | some true, _ => some (some true)
      | _, some true => some (some false)
      | none, none => none
      | _, _ => some none
    declareAll
      { command, isLocal := inFunction && !found.on.contains 'g', exports := switched found 'x',
        locks := found.on.contains 'r', isNumber := switched found 'i', capitals,
        isList := found.on.contains 'a', isTable := found.on.contains 'A' } found.rest

def exportAll (arguments : List Declared) : Execution Nat := do
  let found := declareOptions "fnp" arguments
  match found.refused with
  | some c => refuseOption "export" c
  | none =>
    if found.on.contains 'f' then return ← functionsAreThere found.rest
    if found.rest.isEmpty then
      printDeclarations Variable.isExported
      return 0
    declareAll
      { command := "export", isLocal := false, exports := some !(found.on.contains 'n'), locks := false,
        isNumber := none, capitals := none, isList := false, isTable := false } found.rest

def readOnly (arguments : List Declared) : Execution Nat := do
  let found := declareOptions "aAfp" arguments
  match found.refused with
  | some c => refuseOption "readonly" c
  | none =>
    if found.on.contains 'f' then return ← functionsAreThere found.rest
    if found.rest.isEmpty then
      printDeclarations Variable.isReadOnly
      return 0
    declareAll
      { command := "readonly", isLocal := false, exports := none, locks := true, isNumber := none,
        capitals := none, isList := found.on.contains 'a', isTable := found.on.contains 'A' } found.rest

def declare (command : Chars) (arguments : List Declared) : Execution Nat :=
  match String.ofList command with
  | "export" => exportAll arguments
  | "readonly" => readOnly arguments
  | "local" => declareWith "local" arguments
  | _ => declareWith "declare" arguments

def unsetVariable (text : Chars) : Execution Bool := do
  let named := NamedValue.read text
  let v? ← variableAt? named.name
  if v?.any Variable.isReadOnly then
    complainOf "unset" (named.name ++ ": cannot unset: readonly variable".toList)
    return false
  match v?, named.subscript with
  | some v, some subscript =>
    if isMany subscript ∧ isTable v = false then
      dropVariable named.name
      return true
    succeeds do
      let ⟨key, number⟩ ← slot named.name (some subscript)
      let value := match v.value with
        | some (.list items) => some (Value.list (items.filter fun i => some i.1 != number))
        | some (.table items) => some (Value.table (items.filter fun i => some i.1 != key))
        | value => value
      putVariable named.name { v with value := value }
  | _, _ =>
    dropVariable named.name
    return true

def dropFunction (name : Chars) : Execution Unit :=
  changeProcess fun p => { p with functions := p.functions.filter (·.1 != name) }

def unset (words : List Chars) : Execution Nat := do
  match Options.read (.first "fvn" "") words with
  | .error _ =>
    complainOf "unset" "invalid option".toList
    return 2
  | .ok options =>
    let done ← options.operands.mapM fun name => do
      let isFunction := (← process).functions.any (·.1 == name)
      let isVariable := (← variableAt? (NamedValue.read name).name).isSome
      if options.has 'f' || (isFunction && !isVariable && !options.has 'v') then
        dropFunction name
        return true
      else unsetVariable name
    return if done.all id then 0 else 1

end Execution

end WorkflowScript.Shell
