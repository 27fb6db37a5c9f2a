import WorkflowScript.Shell.Channel

namespace WorkflowScript.Shell

namespace Value

def pairs : Value → List (Chars × Chars)
  | .text chars => [(['0'], chars)]
  | .list items => items.map fun i => (ofNat i.1, i.2)
  | .table items => items

def items (value : Value) : List Chars := value.pairs.map Prod.snd

def numbered : Value → List (Nat × Chars)
  | .text chars => [(0, chars)]
  | .list items => items
  | .table _ => []

end Value

def setItem (number : Nat) (text : Chars) : List (Nat × Chars) → List (Nat × Chars)
  | [] => [(number, text)]
  | item :: items =>
    if item.1 < number then item :: setItem number text items
    else if item.1 = number then (number, text) :: items
    else (number, text) :: item :: items

def setKey (key text : Chars) : List (Chars × Chars) → List (Chars × Chars)
  | [] => [(key, text)]
  | item :: items => if item.1 = key then (key, text) :: items else item :: setKey key text items

inductive Fetched where
  | one (value : Option Chars)
  | many (values : List Chars) (joined : Bool)
  deriving DecidableEq, Repr

namespace Fetched

def isSet : Fetched → Bool
  | .one value => value.isSome
  | .many values _ => !values.isEmpty

def isEmpty : Fetched → Bool
  | .one value => (value.getD []).isEmpty
  | .many values _ => values.all List.isEmpty && values.length ≤ 1

def map (f : Chars → Chars) : Fetched → Fetched
  | .one value => .one (value.map f)
  | .many values joined => .many (values.map f) joined

end Fetched

namespace Execution

def optionLetters : List (String × Char) :=
  [("allexport", 'a'), ("errexit", 'e'), ("noglob", 'f'), ("hashall", 'h'), ("noexec", 'n'), ("nounset", 'u'),
    ("verbose", 'v'), ("xtrace", 'x'), ("braceexpand", 'B'), ("noclobber", 'C'), ("errtrace", 'E'),
    ("histexpand", 'H'), ("keyword", 'k'), ("monitor", 'm'), ("notify", 'b'), ("onecmd", 't'),
    ("physical", 'P'), ("privileged", 'p'), ("functrace", 'T')]

def flags : Execution Chars := do
  let options := (← process).options
  return (optionLetters.filter fun o => options.contains o.1).map Prod.snd

def special? (name : Chars) : Execution (Option Chars) := do
  let p ← process
  match name with
  | ['#'] => return some (ofNat p.arguments.length)
  | ['?'] => return some (ofNat p.status)
  | ['-'] => return some (← flags)
  | ['$'] => return some (ofNat 4242)
  | ['!'] => return p.lastBackground.map ofNat
  | ['0'] => return some p.name
  | name =>
    match Text.digits? 10 name with
    | some n => return p.arguments[n - 1]?
    | none =>
      match String.ofList name with
      | "LINENO" => return some (ofNat p.line)
      | "RANDOM" => return some (ofNat 17767)
      | "SECONDS" => return some ['0']
      | "BASHPID" => return some (ofNat 4242)
      | "BASH_SUBSHELL" => return some (ofNat p.depth)
      | _ => return none

def isMany (subscript : Chars) : Bool := subscript == ['@'] || subscript == ['*']

def expressionDepth : Nat := 100

abbrev Evaluation := ExceptT Arithmetic.Fault Execution

def giveUp {α : Type} : Execution α := do
  setStatus 1
  throw (.discard false)

def giveScriptUp {α : Type} : Execution α := do
  changeProcess fun p => { p with status := max p.status 1 }
  throw (.discard true)

def complainGravely (text : Chars) : Execution Unit := do
  complainHere text
  if ← hasOption "errexit" then throw (.exit 1)

def refuseChange {α : Type} (name : Chars) : Execution α := do
  complainGravely (name ++ ": readonly variable".toList)
  giveUp

def keepCapitals (v : Variable) (text : Chars) : Chars :=
  match v.capitals with
  | some true => text.map Char.toUpper
  | some false => text.map Char.toLower
  | none => text

def itemNumber? (value : Option Value) (n : Int) : Option Nat :=
  if 0 ≤ n then some n.toNat
  else
    let size := ((value.map Value.numbered).getD []).foldl (fun top item => max top (item.1 + 1)) 0
    let place := n + Int.ofNat size
    if 0 ≤ place then some place.toNat else none

def isTable (v : Variable) : Bool :=
  match v.value with
  | some (.table _) => true
  | _ => false

def store (name : Chars) (key : Option Chars) (number : Option Nat) (text : Chars) : Execution Unit := do
  let v := (← variableAt? name).getD .undeclared
  if v.isReadOnly then refuseChange name
  let text := keepCapitals v text
  let value : Value :=
    match v.value, key, number with
    | some (.table items), some key, _ => .table (setKey key text items)
    | some (.table items), none, none => .table (setKey ['0'] text items)
    | some (.list items), _, number => .list (setItem (number.getD 0) text items)
    | _, _, none => .text text
    | some (.text old), _, some n => .list (setItem n text [(0, old)])
    | none, _, some n => .list [(n, text)]
    | some (.table items), none, some n => .table (setKey (ofNat n) text items)
  let isExported := v.isExported || (← hasOption "allexport")
  putVariable name { v with value := some value, isExported := isExported }
  if name = "OPTIND".toList then changeProcess fun p => { p with optionOffset := 0 }

def itemText (v : Option Variable) (key : Option Chars) (number : Option Nat) : Option Chars :=
  match v.bind Variable.value, key, number with
  | some (.table items), some key, _ => items.lookup key
  | some (.table items), none, _ => items.lookup ['0']
  | some value, _, number => value.numbered.lookup (number.getD 0)
  | none, _, _ => none

structure Slot where
  key : Option Chars
  number : Option Nat
  deriving DecidableEq, Repr

def badSubscript (what : Chars) : Execution Unit := complainGravely (what ++ ": bad array subscript".toList)

def itemName (name : Chars) (subscript : Option Chars) : Chars :=
  match subscript with
  | some subscript => name ++ '[' :: subscript ++ [']']
  | none => name

mutual

def slotFrom : Nat → Chars → Option Chars → Evaluation (Option Slot)
  | 0, _, _ => throw { cause := .tooDeep, token := [] }
  | n + 1, name, subscript => do
    let v ← variableAt? name
    match subscript with
    | none => return some ⟨none, none⟩
    | some subscript =>
      if v.any isTable then return some ⟨some subscript, none⟩
      else
        let number ← evaluateFrom n subscript
        return (itemNumber? (v.bind Variable.value) number).map fun number => ⟨none, some number⟩
termination_by structural n => n

def evaluateFrom : Nat → Chars → Evaluation Int
  | 0, text => throw { cause := .tooDeep, token := text }
  | n + 1, text => ExceptT.adapt (Arithmetic.Fault.within text) do
    let expr ← (Arithmetic.parse text : Except Arithmetic.Fault Arithmetic.Expr)
    let access : Arithmetic.Access Evaluation :=
      { get := fun place => do
          let special ← if place.subscript.isNone then special? place.name else pure none
          let found ← match special with
            | some text => pure (some text)
            | none =>
              match ← slotFrom n place.name place.subscript with
              | some slot => pure (itemText (← variableAt? place.name) slot.key slot.number)
              | none =>
                (badSubscript place.name : Execution Unit)
                pure none
          match found with
          | some text => evaluateFrom n text
          | none =>
            if (← hasOption "nounset") then
              (complainHere (place.name ++ ": unbound variable".toList) : Execution Unit)
              (throw (.exit 1) : Execution Int)
            else return 0
        set := fun place value => do
          match ← slotFrom n place.name place.subscript with
          | some slot => (store place.name slot.key slot.number (ofInt value) : Execution Unit)
          | none => (badSubscript (itemName place.name place.subscript) : Execution Unit)
        fail := fun fault => throw fault }
    Arithmetic.eval access expr
termination_by structural n => n

end

def evaluate? (text : Chars) : Execution (Except Arithmetic.Fault Int) :=
  ExceptT.run (evaluateFrom expressionDepth text)

def complainOfExpression (who : Chars) (fault : Arithmetic.Fault) : Execution Unit :=
  complainHere (who ++ fault.message)

def evaluate (text : Chars) : Execution Int := do
  match ← evaluate? text with
  | .ok value => return value
  | .error fault =>
    complainOfExpression [] fault
    giveUp

def evaluateInPlace (text : Chars) : Execution Int := do
  match ← evaluate? text with
  | .ok value => return value
  | .error fault =>
    complainOfExpression [] fault
    giveScriptUp

def slot? (name : Chars) (subscript : Option Chars) : Execution (Option Slot) := do
  match ← ExceptT.run (slotFrom expressionDepth name subscript) with
  | .ok slot => return slot
  | .error fault =>
    complainOfExpression [] fault
    giveScriptUp

def slot (name : Chars) (subscript : Option Chars) : Execution Slot := do
  match ← slot? name subscript with
  | some slot => return slot
  | none =>
    badSubscript (itemName name subscript)
    giveUp

def assign (name : Chars) (subscript : Option Chars) (appending : Bool) (text : Chars) : Execution Unit := do
  let ⟨key, number⟩ ← slot name subscript
  let v := (← variableAt? name).getD .undeclared
  let old := (itemText (some v) key number).getD []
  if v.isNumber then
    let value ← evaluateInPlace (if text.isEmpty then ['0'] else text)
    let base ← if appending ∧ old ≠ [] then evaluateInPlace old else pure 0
    store name key number (ofInt (Arithmetic.wrap (base + value)))
  else store name key number (if appending then old ++ text else text)

def assignText (name : String) (text : Chars) : Execution Unit := assign name.toList none false text

def fetch (name : Chars) (subscript : Option Chars) : Execution Fetched := do
  if name = ['@'] ∨ name = ['*'] then return .many (← process).arguments (name == ['*'])
  match subscript with
  | none =>
    match ← special? name with
    | some text => return .one (some text)
    | none => return .one (itemText (← variableAt? name) none none)
  | some subscript =>
    if isMany subscript then
      let values := (((← variableAt? name).bind Variable.value).map Value.items).getD []
      return .many values (subscript == ['*'])
    else
      match ← slot? name (some subscript) with
      | some slot => return .one (itemText (← variableAt? name) slot.key slot.number)
      | none =>
        badSubscript name
        return .one none

def hide (name : Chars) : Execution Unit := do
  let old ← variableAt? name
  changeProcess fun p =>
    match p.frames with
    | [] => p
    | frame :: frames =>
      if frame.any (·.1 == name) then p else { p with frames := ((name, old) :: frame) :: frames }

def restore (frame : List (Chars × Option Variable)) : Execution Unit :=
  frame.forM fun (name, old) => do
    match old with
    | some v => putVariable name v
    | none => dropVariable name

def environment : Execution (List (Chars × Chars)) := do
  return (← process).store.filterMap fun (name, v) =>
    if v.isExported then (v.value.bind valueText).map fun text => (name, text) else none

end Execution

end WorkflowScript.Shell
