import WorkflowScript.Shell.Expand
import WorkflowScript.Shell.ReadCommand
import WorkflowScript.Shell.Regex

namespace WorkflowScript.Shell.Execution

structure TestFault where
  message : Chars
  status : Nat

def TestFault.ofMessage (message : Chars) : TestFault := ⟨message, 2⟩

abbrev Testing := ExceptT TestFault Execution

def entryAt (path : Chars) : Execution (Option FileEntry) := return (← files).at? (toPath path)

def isProgram (path : Chars) : Execution Bool := do
  match (← files).locate (toPath path) with
  | .ok place => return (← world).programs.contains place
  | .error _ => return false

def isChannelPath (path : Chars) : Bool :=
  ["/dev/stdin", "/dev/stdout", "/dev/stderr"].contains (toPath path) ||
    "/dev/fd/".toList.isPrefixOf path

def contentSize (path : Chars) : Execution Nat := do
  match ← entryAt path with
  | some (.file content) => return content.toBytes.length
  | _ => return 0

def testFile (operator : Char) (path : Chars) : Execution Bool := do
  let entry ← entryAt path
  let isThere := entry.isSome || isChannelPath path
  match operator with
  | 'd' => return entry == some .directory
  | 'f' =>
    match entry with
    | some (.file _) => return true
    | _ => return false
  | 'c' => return entry == some .sink
  | 's' =>
    if entry == some .directory then return true else return 0 < (← contentSize path)
  | 'x' =>
    match entry with
    | some .directory => return true
    | some (.file _) => isProgram path
    | _ => return false
  | 'a' | 'e' | 'r' | 'w' | 'O' | 'G' => return isThere
  | _ => return false

def nameAndSubscript (text : Chars) : Chars × Option Chars :=
  match text.span (· != '[') with
  | (name, '[' :: rest) =>
    if rest.getLast? = some ']' then (name, some rest.dropLast) else (text, none)
  | _ => (text, none)

def isSet (text : Chars) : Execution Bool := do
  let (name, subscript) := nameAndSubscript text
  return (← fetch name subscript).isSet

def unary? (operator : Chars) : Option Char :=
  match operator with
  | ['-', c] => if "abcdefghknoprstuvwxzGLNORS".toList.contains c then some c else none
  | _ => none

def testUnary (operator : Char) (operand : Chars) : Execution Bool := do
  match operator with
  | 'z' => return operand.isEmpty
  | 'n' => return !operand.isEmpty
  | 'v' => isSet operand
  | 'o' => hasOption (toPath operand)
  | 't' | 'R' => return false
  | operator => testFile operator operand

def compareFiles (operator : String) (left right : Chars) : Execution Bool := do
  let files ← files
  let place? (path : Chars) : Option Location := (files.locate (toPath path)).toOption
  let l ← entryAt left
  let r ← entryAt right
  match operator with
  | "-ef" => return l.isSome && r.isSome && place? left == place? right
  | "-nt" => return l.isSome && r.isNone
  | _ => return l.isNone && r.isSome

def compareNumbers? (operator : String) (a b : Int) : Option Bool :=
  match operator with
  | "-eq" => some (a == b)
  | "-ne" => some (a != b)
  | "-lt" => some (decide (a < b))
  | "-le" => some (decide (a ≤ b))
  | "-gt" => some (decide (b < a))
  | "-ge" => some (decide (b ≤ a))
  | _ => none

def isNumberOperator (operator : String) : Bool := (compareNumbers? operator 0 0).isSome

def isFileOperator (operator : String) : Bool := ["-nt", "-ot", "-ef"].contains operator

def isTextOperator (operator : String) : Bool := ["=", "==", "!=", "<", ">"].contains operator

def isBinary (operator : Chars) : Bool :=
  let operator := toPath operator
  isTextOperator operator || isNumberOperator operator || isFileOperator operator

def number (text : Chars) : Testing Int :=
  match integer? text with
  | some n => return n
  | none => throw (.ofMessage (text ++ ": integer expression expected".toList))

def testBinary (operator : Chars) (left right : Chars) : Testing Bool := do
  let operator := toPath operator
  match operator with
  | "=" | "==" => return left == right
  | "!=" => return left != right
  | "<" => return decide (left < right)
  | ">" => return decide (right < left)
  | operator =>
    if isFileOperator operator then compareFiles operator left right
    else
      let a ← number left
      let b ← number right
      return (compareNumbers? operator a b).getD false

mutual

def testEither : Nat → List Chars → Testing (Bool × List Chars)
  | 0, _ => throw (.ofMessage "too many arguments".toList)
  | n + 1, words => do
    let (left, rest) ← testBoth n words
    match rest with
    | ['-', 'o'] :: rest =>
      let (right, rest) ← testEither n rest
      return (left || right, rest)
    | rest => return (left, rest)
termination_by structural n => n

def testBoth : Nat → List Chars → Testing (Bool × List Chars)
  | 0, _ => throw (.ofMessage "too many arguments".toList)
  | n + 1, words => do
    let (left, rest) ← testTerm n words
    match rest with
    | ['-', 'a'] :: rest =>
      let (right, rest) ← testBoth n rest
      return (left && right, rest)
    | rest => return (left, rest)
termination_by structural n => n

def testTerm : Nat → List Chars → Testing (Bool × List Chars)
  | 0, _ => throw (.ofMessage "too many arguments".toList)
  | n + 1, words => do
    match words with
    | [] => throw (.ofMessage "argument expected".toList)
    | ['!'] :: rest =>
      let (value, rest) ← testTerm n rest
      return (!value, rest)
    | ['('] :: rest =>
      let (value, rest) ← testEither n rest
      match rest with
      | [')'] :: rest => return (value, rest)
      | other :: _ => throw (.ofMessage ("\x60)' expected, found ".toList ++ other))
      | [] => throw (.ofMessage "\x60)' expected".toList)
    | left :: operator :: right :: rest =>
      if isBinary operator then return (← testBinary operator left right, rest)
      else
        match unary? left with
        | some c => return (← testUnary c operator, right :: rest)
        | none => return (!left.isEmpty, operator :: right :: rest)
    | [left, operand] =>
      match unary? left with
      | some c => return (← testUnary c operand, [])
      | none => return (!left.isEmpty, [operand])
    | [word] => return (!word.isEmpty, [])
termination_by structural n => n

end

def testTwo (first second : Chars) : Testing Bool :=
  if first = ['!'] then return second.isEmpty
  else
    match unary? first with
    | some c => testUnary c second
    | none => throw (.ofMessage (first ++ ": unary operator expected".toList))

def testThree (first second third : Chars) : Testing Bool := do
  if isBinary second then testBinary second first third
  else if second = ['-', 'a'] then return !first.isEmpty && !third.isEmpty
  else if second = ['-', 'o'] then return !first.isEmpty || !third.isEmpty
  else if first = ['!'] then return !(← testTwo second third)
  else if first = ['('] ∧ third = [')'] then return !second.isEmpty
  else throw (.ofMessage (second ++ ": binary operator expected".toList))

def testWords (words : List Chars) : Testing Bool := do
  let general : Testing Bool := do
    let (value, rest) ← testEither (4 * words.length + 4) words
    if rest.isEmpty then return value else throw (.ofMessage "too many arguments".toList)
  match words with
  | [] => return false
  | [word] => return !word.isEmpty
  | [first, second] => testTwo first second
  | [first, second, third] => testThree first second third
  | [['!'], first, second, third] => return !(← testThree first second third)
  | [['('], first, second, [')']] => testTwo first second
  | _ => general

def runTest (command : String) (words : List Chars) : Execution Nat := do
  match ← ExceptT.run (testWords words) with
  | .ok value => return if value then 0 else 1
  | .error fault =>
    complainOf command fault.message
    return fault.status

section

variable (perform : Perform)

def matchesPattern (word : Word) (text : Chars) : Execution Bool := do
  let pattern ← markedOf perform word
  return Pattern.matchesAll (← hasHabit "nocasematch") (Pattern.ofMarked true pattern) text

def regexText (marked : List Marked) : Chars :=
  marked.flatMap fun m =>
    if m.isQuoted && "\\.[]*^$+?()|\x7b\x7d".toList.contains m.char then ['\\', m.char] else [m.char]

def matchesRegex (word : Word) (text : Chars) : Testing Bool := do
  let marked ← markedOf perform word
  match Regex.parse? .extended (regexText marked) with
  | none => throw (.ofMessage [])
  | some regex =>
    let found := Regex.search? (← hasHabit "nocasematch") regex text
    let captures := match found with
      | none => []
      | some found =>
        let last := found.captures.foldl (fun n c => max n c.number) 0
        (List.range (last + 1)).map fun n => (n, Regex.capture found n)
    putVariable "BASH_REMATCH".toList { Variable.undeclared with value := some (.list captures) }
    return found.isSome

def operand (text : Chars) : Testing Int := do
  match ← (evaluate? text : Execution (Except Arithmetic.Fault Int)) with
  | .ok value => return value
  | .error fault =>
    (complainOfExpression "[[: ".toList fault : Execution Unit)
    throw ⟨[], 1⟩

def testCondition : Condition → Testing Bool
  | .word word => do return !(← textOf perform word).isEmpty
  | .unary operator operand => do
    let text ← textOf perform operand
    match unary? operator with
    | some c => testUnary c text
    | none => return false
  | .binary operator left right => do
    let a ← textOf perform left
    match toPath operator with
    | "=" | "==" => matchesPattern perform right a
    | "!=" => return !(← matchesPattern perform right a)
    | "=~" => matchesRegex perform right a
    | operator =>
      let b ← textOf perform right
      if isNumberOperator operator then
        let left ← operand a
        return (compareNumbers? operator left (← operand b)).getD false
      else testBinary operator.toList a b
  | .negation condition => return !(← testCondition condition)
  | .both left right => do if ← testCondition left then testCondition right else return false
  | .either left right => do if ← testCondition left then return true else testCondition right

def runCondition (condition : Condition) : Execution Nat := do
  match ← ExceptT.run (testCondition perform condition) with
  | .ok value => return if value then 0 else 1
  | .error fault =>
    unless fault.message.isEmpty do complainOf "[[" fault.message
    return fault.status

end

end WorkflowScript.Shell.Execution
