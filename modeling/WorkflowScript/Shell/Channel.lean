import WorkflowScript.Shell.State

namespace WorkflowScript.Shell.Execution

def channelNumber? (descriptor : Nat) : Execution (Option Nat) :=
  return (← process).descriptors.lookup descriptor

def channel? (descriptor : Nat) : Execution (Option (Nat × Channel)) := do
  match ← channelNumber? descriptor with
  | none => return none
  | some number => return (← world).channels[number]?.map fun channel => (number, channel)

def setChannel (number : Nat) (channel : Channel) : Execution Unit :=
  changeWorld fun w => { w with channels := w.channels.set number channel }

def openChannel (channel : Channel) : Execution Nat := do
  let number := (← world).channels.length
  changeWorld fun w => { w with channels := w.channels ++ [channel] }
  return number

def setDescriptor (descriptor number : Nat) : Execution Unit :=
  changeProcess fun p =>
    { p with descriptors := (descriptor, number) :: p.descriptors.filter (·.1 != descriptor) }

def closeDescriptor (descriptor : Nat) : Execution Unit :=
  changeProcess fun p => { p with descriptors := p.descriptors.filter (·.1 != descriptor) }

def contentAt (place : Location) : Execution (Option Chars) := do
  match (← world).files.entry? place with
  | some (.file content) => return some (ofBytes content.toBytes)
  | _ => return none

def putContent (place : Location) (text : Chars) : Execution Unit := do
  setFiles ((← world).files.set place (.file (.ofBytes (toBytes text))))

def overwrite (content : Chars) (offset : Nat) (text : Chars) : Chars :=
  let before := content.take offset
  before ++ List.replicate (offset - before.length) '\x00' ++ text ++ content.drop (offset + text.length)

def write (descriptor : Nat) (text : Chars) : Execution Bool := do
  match ← channel? descriptor with
  | none => return false
  | some (_, .output) =>
    changeWorld fun w => { w with output := text.reverseAux w.output }
    return true
  | some (_, .errors) =>
    changeWorld fun w => { w with errors := text.reverseAux w.errors }
    return true
  | some (_, .sink) => return true
  | some (_, .input) => return false
  | some (number, .pipe pending) =>
    setChannel number (.pipe (pending ++ text))
    return true
  | some (number, .file place offset appends) =>
    match ← contentAt place with
    | none => return true
    | some content =>
      let offset := if appends then content.length else offset
      putContent place (overwrite content offset text)
      setChannel number (.file place (offset + text.length) appends)
      return true

def pending? (descriptor : Nat) : Execution (Option Chars) := do
  match ← channel? descriptor with
  | none => return none
  | some (_, .input) => return some (← world).input
  | some (_, .pipe pending) => return some pending
  | some (_, .file place offset _) =>
    return some (((← contentAt place).getD []).drop offset)
  | some (_, .sink) => return some []
  | some _ => return none

def consume (descriptor : Nat) (count : Nat) : Execution Unit := do
  match ← channel? descriptor with
  | some (_, .input) => changeWorld fun w => { w with input := w.input.drop count }
  | some (number, .pipe pending) => setChannel number (.pipe (pending.drop count))
  | some (number, .file place offset appends) => setChannel number (.file place (offset + count) appends)
  | _ => return ()

def readAll (descriptor : Nat) : Execution (Option Chars) := do
  match ← pending? descriptor with
  | none => return none
  | some text =>
    consume descriptor text.length
    return some text

def print (text : Chars) : Execution Unit := do
  let _ ← write 1 text

def printString (text : String) : Execution Unit := print (ofString text)

def printLine (text : Chars) : Execution Unit := print (text ++ ['\n'])

def complain (text : Chars) : Execution Unit := do
  let _ ← write 2 (text ++ ['\n'])

def complainHere (text : Chars) : Execution Unit := do
  let p ← process
  complain (p.name ++ ": line ".toList ++ ofNat p.line ++ ": ".toList ++ text)

def complainOf (command : String) (text : Chars) : Execution Unit :=
  complainHere (command.toList ++ ": ".toList ++ text)

end WorkflowScript.Shell.Execution
