import WorkflowScript.Shell.Arithmetic
import WorkflowScript.Shell.Command
import WorkflowScript.Text.Case
import WorkflowScript.Workspace.FileTree

namespace WorkflowScript.Shell

inductive Value where
  | text (text : Chars)
  | list (items : List (Nat × Chars))
  | table (items : List (Chars × Chars))
  deriving DecidableEq, Repr

structure Variable where
  value : Option Value
  isExported : Bool
  isReadOnly : Bool
  isNumber : Bool
  capitals : Option Bool
  deriving DecidableEq, Repr

namespace Variable

def undeclared : Variable := ⟨none, false, false, false, none⟩

end Variable

inductive Channel where
  | input
  | output
  | errors
  | sink
  | file (place : Location) (offset : Nat) (appends : Bool)
  | pipe (pending : Chars)
  deriving DecidableEq, Repr

structure Process where
  name : Chars
  arguments : List Chars
  store : List (Chars × Variable)
  functions : List (Chars × Command)
  options : List String
  habits : List String
  descriptors : List (Nat × Nat)
  traps : List (String × Chars)
  here : Location
  status : Nat
  jobs : List Nat
  substituted : Option Nat
  isGuarded : Bool
  loops : Nat
  frames : List (List (Chars × Option Variable))
  sources : Nat
  texts : Nat
  depth : Nat
  line : Nat
  lastBackground : Option Nat
  endingStatus : Option Nat
  optionOffset : Nat
  kept : List Chars

structure Background where
  number : Nat
  process : Process
  body : Command

structure World where
  files : FileTree
  programs : List Location
  channels : List Channel
  input : Chars
  output : Chars
  errors : Chars
  waiting : List Background
  finished : List (Nat × Nat)

structure State where
  world : World
  process : Process

inductive Signal where
  | exit (status : Nat)
  | failure (status : Nat) (isNested : Bool)
  | killed (status : Nat)
  | discard (ofScript : Bool)
  | leaveLoops (levels : Nat)
  | nextRound (levels : Nat)
  | leaveFunction (status : Nat)
  deriving DecidableEq, Repr

abbrev Execution := ExceptT Signal (StateM State)

def toBytes (text : Chars) : Text.Utf8.Bytes := text.map fun c => UInt8.ofNat c.toNat

def ofBytes (bytes : Text.Utf8.Bytes) : Chars := bytes.map fun b => Char.ofNat b.toNat

def ofText (text : List Char) : Chars := ofBytes (Text.Utf8.encode text)

def ofString (text : String) : Chars := ofText text.toList

def toText (text : Chars) : List Char := Text.Utf8.decodeLossy (toBytes text)

def toPath (text : Chars) : String := .ofList (toText text)

def ofNat (n : Nat) : Chars := (Nat.toDigits 10 n)

def ofInt (n : Int) : Chars := if n < 0 then '-' :: ofNat n.natAbs else ofNat n.natAbs

def integer? (text : Chars) : Option Int :=
  let isSpace (c : Char) : Bool := c == ' ' || ('\t' ≤ c && c ≤ '\r')
  let text := (text.dropWhile isSpace).reverse.dropWhile isSpace |>.reverse
  let value := match text with
    | '-' :: digits => (Text.digits? 10 digits).map fun n => -(n : Int)
    | '+' :: digits => (Text.digits? 10 digits).map Int.ofNat
    | digits => (Text.digits? 10 digits).map Int.ofNat
  value.filter fun n => decide (-Int.pow 2 63 ≤ n) && decide (n < Int.pow 2 63)

namespace Execution

def process : Execution Process := return (← get).process

def world : Execution World := return (← get).world

def changeProcess (f : Process → Process) : Execution Unit :=
  modify fun state => { state with process := f state.process }

def changeWorld (f : World → World) : Execution Unit :=
  modify fun state => { state with world := f state.world }

def setStatus (status : Nat) : Execution Unit := changeProcess fun p => { p with status := status }

def hasOption (name : String) : Execution Bool := return (← process).options.contains name

def hasHabit (name : String) : Execution Bool := return (← process).habits.contains name

def with_ (name : String) (isOn : Bool) (names : List String) : List String :=
  if isOn then (if names.contains name then names else names ++ [name]) else names.filter (· != name)

def setOption (name : String) (isOn : Bool) : Execution Unit :=
  changeProcess fun p => { p with options := with_ name isOn p.options }

def setHabit (name : String) (isOn : Bool) : Execution Unit :=
  changeProcess fun p => { p with habits := with_ name isOn p.habits }

def files : Execution FileTree := do
  return { (← world).files with here := (← process).here }

def setFiles (files : FileTree) : Execution Unit :=
  changeWorld fun w => { w with files := { files with here := w.files.here } }

def ending (status : Nat) : Execution Unit := throw (.exit (status % 256))

def variableAt? (name : Chars) : Execution (Option Variable) := do
  return (← process).store.lookup name

def putVariable (name : Chars) (new : Variable) : Execution Unit :=
  changeProcess fun p =>
    let store :=
      if p.store.any (·.1 == name) then p.store.map fun e => if e.1 == name then (name, new) else e
      else p.store ++ [(name, new)]
    { p with store := store }

def dropVariable (name : Chars) : Execution Unit :=
  changeProcess fun p => { p with store := p.store.filter (·.1 != name) }

def valueText : Value → Option Chars
  | .text text => some text
  | .list items => items.lookup 0
  | .table items => items.lookup ['0']

def scalar? (name : Chars) : Execution (Option Chars) := do
  return (← variableAt? name).bind fun v => v.value.bind valueText

def scalarOf (name : String) : Execution Chars := return (← scalar? name.toList).getD []

end Execution

end WorkflowScript.Shell
