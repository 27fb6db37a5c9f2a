import WorkflowScript.Text.CaseData

namespace WorkflowScript.Text

def inRanges (ranges : List (Nat × Nat)) (c : Char) : Bool :=
  ranges.any fun r => r.1 ≤ c.toNat && c.toNat ≤ r.2

def isCased (c : Char) : Bool := inRanges casedRanges c

def isCaseIgnorable (c : Char) : Bool := inRanges caseIgnorableRanges c

def mapCase (sequences : List (Nat × List Nat)) (runs : List CaseRun) (c : Char) : List Char :=
  match sequences.find? (·.1 == c.toNat) with
  | some s => s.2.map Char.ofNat
  | none =>
    match runs.find? (·.contains c.toNat) with
    | some run => [Char.ofNat (c.toNat + run.offset).toNat]
    | none => [c]

def lowerChar (c : Char) : List Char :=
  if c.toNat < 0x80 then [c.toLower] else mapCase lowerSequences lowerRuns c

def upperChar (c : Char) : List Char :=
  if c.toNat < 0x80 then [c.toUpper] else mapCase upperSequences upperRuns c

def capitalSigma : Char := 'Σ'

def startsCased (text : List Char) : Bool :=
  match text.dropWhile isCaseIgnorable with
  | [] => false
  | c :: _ => isCased c

def lowerAfter (inWord : Bool) : List Char → List Char
  | [] => []
  | c :: text =>
    let mapped :=
      if c = capitalSigma then (if inWord && !startsCased text then ['ς'] else ['σ'])
      else lowerChar c
    mapped ++ lowerAfter (if isCaseIgnorable c then inWord else isCased c) text

def lower (text : String) : String := .ofList (lowerAfter false text.toList)

def upper (text : String) : String := .ofList (text.toList.flatMap upperChar)

def sameIgnoringAsciiCase (a b : List Char) : Bool := a.map Char.toLower == b.map Char.toLower

@[simp] theorem sameIgnoringAsciiCase_refl (a : List Char) : sameIgnoringAsciiCase a a = true := by
  simp [sameIgnoringAsciiCase]

end WorkflowScript.Text
