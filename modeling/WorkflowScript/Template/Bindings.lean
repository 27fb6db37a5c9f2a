import WorkflowScript.CompileError
import WorkflowScript.NameTable

namespace WorkflowScript

def quoteIfNeeded (value : String) : String :=
  if ' ' ∈ value.toList then "\"" ++ value ++ "\"" else value

structure Input where
  value : Option String
  hasDefault : Bool
  deriving DecidableEq, Repr

namespace Input

def required : Input := ⟨none, false⟩

def ofDefault (value : String) : Input := ⟨some (quoteIfNeeded value), true⟩

def text (input : Input) : String := input.value.getD ""

end Input

abbrev InputTable := NameTable Input

structure Combination where
  values : NameTable String

namespace Combination

def none : Combination := ⟨.empty⟩

def ofPairs (pairs : List (String × String)) : Combination := ⟨.ofList pairs⟩

def pairs (combination : Combination) : List (String × String) := combination.values.toList

def bind (combination : Combination) (axis value : String) : Combination :=
  ⟨combination.values.insert axis value⟩

def get? (combination : Combination) (axis : String) : Option String := combination.values.get? axis

def describe (combination : Combination) : String :=
  if combination.values.isEmpty then "no matrix"
  else " ".intercalate (combination.pairs.map fun p => p.1 ++ "=" ++ p.2)

end Combination

structure Bindings where
  inputs : InputTable
  combination : Combination

namespace Bindings

def input (bindings : Bindings) (name : String) : Except CompileError String :=
  match bindings.inputs.get? name with
  | none => .error (.undefinedInput name)
  | some input => if input.hasDefault then .ok input.text else .error (.missingInputDefault name)

def matrixValue (bindings : Bindings) (name : String) : Except CompileError String :=
  match bindings.combination.get? name with
  | none => .error (.undefinedMatrixValue name)
  | some value => .ok value

end Bindings

end WorkflowScript
