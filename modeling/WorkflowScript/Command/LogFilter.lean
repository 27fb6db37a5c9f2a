import WorkflowScript.Command.FieldPattern
import WorkflowScript.Text.Utf8

namespace WorkflowScript.LogFilter

inductive Fault where
  | directive
  | level
  | field (fault : FieldPattern.Fault)
  | brokenCharacter
  deriving DecidableEq, Repr

def levelText : String :=
  "error parsing level filter: expected one of \"off\", \"error\", \"warn\", \"info\", \"debug\", " ++
    "\"trace\", or a number 0-5"

def Fault.message : Fault → String
  | .directive => "invalid filter directive"
  | .level => levelText
  | .field fault => "invalid field filter: " ++ fault.messages.headD ""
  | .brokenCharacter => "byte index is not a char boundary"

def Fault.causes : Fault → List String
  | .directive => []
  | .level => [levelText]
  | .field fault => fault.messages
  | .brokenCharacter => []

def levels : List String := ["off", "error", "warn", "info", "debug", "trace"]

def highestLevel : Nat := 5

def levelNumber? (text : List Char) : Option Nat :=
  match text with
  | '+' :: digits => Text.digits? 10 digits
  | digits => Text.digits? 10 digits

def isLevel (text : List Char) : Bool :=
  levels.any (fun level => Text.sameIgnoringAsciiCase text level.toList) ||
    (levelNumber? text).any (· ≤ highestLevel)

def cutAt (n : Nat) (text : List Char) : Except Fault (List Char × List Char) :=
  match Text.cutAtByte? n text with
  | some parts => .ok parts
  | none => .error .brokenCharacter

def cut (text : List Char) (first last : Nat) : Except Fault (List Char) := do
  let (before, _) ← cutAt last text
  let (_, part) ← cutAt first before
  return part

def isExponent : List Char → Bool
  | [] => true
  | c :: text =>
    let digits := match text with
      | '+' :: digits => digits
      | '-' :: digits => digits
      | digits => digits
    (c == 'e' || c == 'E') && !digits.isEmpty && digits.all Char.isDigit

def isDecimal (text : List Char) : Bool :=
  let (whole, rest) := text.span Char.isDigit
  let (fraction, rest) := match rest with
    | '.' :: rest => rest.span Char.isDigit
    | rest => ([], rest)
  !(whole.isEmpty && fraction.isEmpty) && isExponent rest

def isNumber (text : List Char) : Bool :=
  let unsigned := match text with
    | '+' :: unsigned => unsigned
    | '-' :: unsigned => unsigned
    | unsigned => unsigned
  isDecimal unsigned ||
    ["inf", "infinity", "nan"].any fun word => Text.sameIgnoringAsciiCase unsigned word.toList

def checkField (field : List Char) : Except Fault Unit :=
  match field.splitOn '=' with
  | _ :: value :: _ =>
    if isNumber value then .ok ()
    else match FieldPattern.check (.ofList value) with
      | .ok () => .ok ()
      | .error fault => .error (.field fault)
  | _ => .ok ()

inductive Reading where
  | nothing
  | levelOrTarget
  | span (first : Nat)
  | field (first : Nat)
  | fields
  | target
  | level (first : Nat)
  deriving DecidableEq, Repr

def startsTarget (c : Char) : Bool := c == '-' || c == ':' || c == '_' || Text.isAlphanumeric c

def step (text : List Char) (here : Nat) (c : Char) : Reading → Except Fault Reading
  | .nothing =>
    if c = '[' then .ok (.span (here + 1))
    else if startsTarget c then .ok .levelOrTarget
    else .error .directive
  | .levelOrTarget =>
    if c = '=' then (cut text 0 here).map fun _ => .level (here + 1)
    else if c = '[' then (cut text 0 here).map fun _ => .span (here + 1)
    else .ok .levelOrTarget
  | .span first =>
    if c = ']' then (cut text first here).map fun _ => .target
    else if c = '\x7b' then (cut text first here).map fun _ => .field (here + 1)
    else .ok (.span first)
  | .field first =>
    if c = '\x7d' then do
      let field ← cut text first here
      if field = [] then .error .directive
      else
        checkField field
        return .fields
    else .ok (.field first)
  | .fields => if c = ']' then .ok .target else .error .directive
  | .target => if c = '=' then .ok (.level (here + 1)) else .error .directive
  | .level first => .ok (.level first)

def finish (text : List Char) : Reading → Except Fault Unit
  | .levelOrTarget => .ok ()
  | .target => .ok ()
  | .level first => do
    let (_, level) ← cutAt first text
    if level = [] ∨ isLevel level then .ok () else .error .level
  | _ => .error .directive

def checkFrom (text : List Char) (here : Nat) (reading : Reading) : List Char → Except Fault Unit
  | [] => finish text reading
  | c :: rest => do checkFrom text (here + c.utf8Size) (← step text here c reading) rest

def checkDirective (text : List Char) : Except Fault Unit :=
  checkFrom text 0 .nothing (Text.trim text)

def check (text : String) : Except Fault Unit :=
  ((text.toList.splitOn ',').filter (· != [])).forM checkDirective

end WorkflowScript.LogFilter
