import WorkflowScript.Shell.Brace
import WorkflowScript.Shell.Edit
import WorkflowScript.Shell.Escape
import WorkflowScript.Shell.Field
import WorkflowScript.Shell.Glob
import WorkflowScript.Shell.Parameter
import WorkflowScript.Shell.Quote
import WorkflowScript.Shell.Task

namespace WorkflowScript.Shell

namespace Execution

def separators : Execution Chars := do
  return ((← scalar? "IFS".toList).getD [' ', '\t', '\n'])

def homeOf (user : Chars) : Execution (Option Chars) := do
  match String.ofList user with
  | "" => return some ((← scalar? "HOME".toList).getD "/root".toList)
  | "+" => scalar? "PWD".toList
  | "-" => scalar? "OLDPWD".toList
  | "root" => return some "/root".toList
  | _ => return none

def tildeAt (marks : List Char) (word : Word) : Execution Word := do
  match word with
  | .char '~' :: rest =>
    let (user, after) := Word.spanPlain (fun c => isNameChar c || c == '+' || c == '-' || c == '.') rest
    let isWhole := match after with
      | [] => true
      | .char c :: _ => marks.contains c
      | _ => false
    if isWhole then
      match ← homeOf user with
      | some home => return .quotes :: home.map .quoted ++ after
      | none => return word
    else return word
  | word => return word

def tildesFrom : Nat → Word → Execution Word
  | 0, word => return word
  | n + 1, word => do
    let word ← tildeAt ['/', ':'] word
    let start := word.takeWhile fun part => match part with
      | .char ':' => false
      | _ => true
    match word.drop start.length with
    | [] => return word
    | colon :: rest => return start ++ colon :: (← tildesFrom n rest)

def tildes (word : Word) : Execution Word := do
  let (name, rest) := Word.spanPlain isNameChar word
  let named := name.map Part.char
  match isName name, rest with
  | true, .char '=' :: value => return named ++ .char '=' :: (← tildesFrom (value.length + 1) value)
  | true, .char '+' :: .char '=' :: value =>
    return named ++ .char '+' :: .char '=' :: (← tildesFrom (value.length + 1) value)
  | _, _ => tildeAt ['/', ':'] word

def piecesOf (isQuoted : Bool) : Fetched → Execution (List Piece)
  | .one value => return Piece.ofValue isQuoted (value.getD [])
  | .many values joined => do
    match values with
    | [] => return if isQuoted && !joined then [.absent] else []
    | values =>
      if isQuoted && joined then
        let separator := (← separators).take 1
        return Piece.quotedChars (separator.intercalate values)
      else
        let mark := if isQuoted then Piece.boundary else .softBoundary
        return [mark].intercalate (values.map (Piece.ofValue isQuoted))

section

variable (perform : Perform)

def substitute (text : Chars) : Execution Chars := do
  let (output, status) ← captured perform (perform (.text text))
  changeProcess fun p => { p with substituted := some status, status := status }
  return trimBreaks (output.filter (· != '\x00'))

def channelPath (reading : Bool) (text : Chars) : Execution Chars := do
  if reading then
    let before ← process
    let (output, _) ← captured perform (perform (.text text))
    changeProcess fun p => { p with status := before.status }
    let number ← openChannel (.pipe output)
    let used := (← process).descriptors.map Prod.fst
    let descriptor := ((List.range 64).reverse.find? fun n => !used.contains n).getD 63
    setDescriptor descriptor number
    return "/dev/fd/".toList ++ ofNat descriptor
  else return "/dev/null".toList

def demandValue (name : Chars) (fetched : Fetched) : Execution Unit := do
  let isUnset := match fetched with
    | .one none => true
    | _ => false
  if isUnset && (← hasOption "nounset") then
    complainHere ((if name.all Char.isDigit then '$' :: name else name) ++ ": unbound variable".toList)
    ending 1

mutual

def piecesFrom : Nat → Word → Execution (List Piece)
  | 0, _ => return []
  | _ + 1, [] => return []
  | n + 1, part :: word => do
    let first ← match part with
      | .char c => pure [Piece.char ⟨c, false⟩]
      | .quoted c => pure [Piece.char ⟨c, true⟩]
      | .quotes => pure [Piece.present]
      | .expansion expansion isQuoted => expansionFrom n isQuoted expansion
    return first ++ (← piecesFrom n word)
termination_by structural n => n

def expansionFrom : Nat → Bool → Expansion → Execution (List Piece)
  | 0, _, _ => return []
  | n + 1, isQuoted, expansion => do
    match expansion with
    | .command text => return Piece.ofValue isQuoted (← substitute perform text)
    | .channel reading text => return Piece.quotedChars (← channelPath perform reading text)
    | .arithmetic expression =>
      let text ← textFrom n expression
      return Piece.ofValue isQuoted (ofInt (← evaluate (text.filter (· != '"'))))
    | .malformed text =>
      complainGravely ("$".toList ++ openBrace :: text ++ closeBrace :: ": bad substitution".toList)
      giveUp
    | .parameter name subscript operation =>
      let subscript ← match subscript with
        | none => pure none
        | some word => pure (some (← textFrom n word))
      operateFrom n isQuoted name subscript operation
termination_by structural n => n

def textFrom : Nat → Word → Execution Chars
  | 0, _ => return []
  | n + 1, word => do return (Piece.marked [' '] (← piecesFrom n word)).map Marked.char
termination_by structural n => n

def patternFrom : Nat → Word → Execution (List Pattern.Part)
  | 0, _ => return []
  | n + 1, word => do
    return Pattern.ofMarked (← hasHabit "extglob") (Piece.marked [' '] (← piecesFrom n word))
termination_by structural n => n

def operateFrom : Nat → Bool → Chars → Option Chars → Operation → Execution (List Piece)
  | 0, _, _, _, _ => return []
  | n + 1, isQuoted, name, subscript, operation => do
    let fetched ← fetch name subscript
    let isMissing (emptyToo : Bool) : Bool := !fetched.isSet || (emptyToo && fetched.isEmpty)
    let ignoreCase ← hasHabit "nocasematch"
    let wordPieces (word : Word) : Execution (List Piece) := do
      let word ← if isQuoted then pure word else tildeAt ['/'] word
      let pieces ← piecesFrom n word
      return if isQuoted then pieces else pieces.map Piece.unquoted
    match operation with
    | .value | .bare =>
      demandValue name fetched
      piecesOf isQuoted fetched
    | .length =>
      demandValue name fetched
      let length := match fetched with
        | .one value => (value.getD []).length
        | .many values _ => values.length
      return Piece.ofValue isQuoted (ofNat length)
    | .indirect =>
      match subscript, fetched with
      | some _, .many _ joined =>
        let keys := (((← variableAt? name).bind Variable.value).map Value.pairs).getD []
        piecesOf isQuoted (.many (keys.map Prod.fst) joined)
      | _, .one (some target) =>
        if (Text.digits? 10 target).isSome ∨ isName (target.takeWhile (· != '[')) = true ∨ target = ['@'] ∨
            target = ['*'] then
          let (name, subscript) := match target.span (· != '[') with
            | (name, '[' :: rest) => (name, some rest.dropLast)
            | _ => (target, none)
          piecesOf isQuoted (← fetch name subscript)
        else
          complainGravely (target ++ ": invalid variable name".toList)
          giveUp
      | _, _ =>
        complainGravely (name ++ ": invalid indirect expansion".toList)
        giveUp
    | .names =>
      let found := (← process).store.map Prod.fst |>.filter name.isPrefixOf
      piecesOf isQuoted (.many (Glob.sorted found) true)
    | .orElse emptyToo word =>
      if isMissing emptyToo then wordPieces word else piecesOf isQuoted fetched
    | .assign emptyToo word =>
      if isMissing emptyToo then
        let text := (Piece.marked [' '] (← wordPieces word)).map Marked.char
        assign name subscript false text
        piecesOf isQuoted (.one (some text))
      else piecesOf isQuoted fetched
    | .require emptyToo word =>
      if isMissing emptyToo then
        let text ← textFrom n word
        let text := if text.isEmpty then
            (if emptyToo then "parameter null or not set".toList else "parameter not set".toList)
          else text
        complainHere (name ++ ": ".toList ++ text)
        throw (.exit 1)
      else piecesOf isQuoted fetched
    | .alternative emptyToo word =>
      if isMissing emptyToo then return [] else wordPieces word
    | .removeStart longest pattern =>
      demandValue name fetched
      let pattern ← patternFrom n pattern
      piecesOf isQuoted (fetched.map (Edit.removeStart ignoreCase longest pattern))
    | .removeEnd longest pattern =>
      demandValue name fetched
      let pattern ← patternFrom n pattern
      piecesOf isQuoted (fetched.map (Edit.removeEnd ignoreCase longest pattern))
    | .replace scope pattern new =>
      demandValue name fetched
      let pattern ← patternFrom n pattern
      let new := Piece.marked [' '] (← piecesFrom n new)
      let new :=
        if ← hasHabit "patsub_replacement" then Edit.Replacement.ofMarked new else Edit.Replacement.plain new
      piecesOf isQuoted (fetched.map (Edit.replaceMatches ignoreCase scope pattern new))
    | .changeCase toUpper everywhere pattern =>
      demandValue name fetched
      let pattern ← patternFrom n pattern
      piecesOf isQuoted (fetched.map (Edit.changeCase toUpper everywhere pattern))
    | .slice offset length =>
      demandValue name fetched
      let offset ← evaluate (← textFrom n offset)
      let length ← match length with
        | none => pure none
        | some word => pure (some (← evaluate (← textFrom n word)))
      let taken ← match fetched with
        | .one value => pure ((Edit.slice? (value.getD []) offset length).map fun text => Fetched.one (some text))
        | .many values joined =>
          let name0 := (← process).name
          let values := if name = ['@'] ∨ name = ['*'] then name0 :: values else values
          pure ((Edit.slice? values offset length).map fun values => Fetched.many values joined)
      match taken with
      | some fetched => piecesOf isQuoted fetched
      | none =>
        complainHere (ofInt (length.getD 0) ++ ": substring expression < 0".toList)
        giveUp
    | .transform 'Q' => piecesOf isQuoted (fetched.map Quote.inQuotes)
    | .transform 'U' => piecesOf isQuoted (fetched.map (List.map Char.toUpper))
    | .transform 'L' => piecesOf isQuoted (fetched.map (List.map Char.toLower))
    | .transform 'u' => piecesOf isQuoted (fetched.map (Edit.changeCase true false []))
    | .transform 'E' => piecesOf isQuoted (fetched.map fun text => (Escape.replace .quoted text).1)
    | .transform _ => piecesOf isQuoted fetched
termination_by structural n => n

end

def reach : Nat := 1000000

def pieces (word : Word) : Execution (List Piece) := piecesFrom perform (reach + word.length) word

def textOf (word : Word) : Execution Chars := do
  return (Piece.marked [' '] (← pieces perform (← tildeAt ['/', ':'] word))).map Marked.char

def expressionOf (word : Word) : Execution Chars := do
  return ((Piece.marked [' '] (← pieces perform word)).map Marked.char).filter (· != '"')

def assignedText (word : Word) : Execution Chars := do
  let word ← tildesFrom (word.length + 1) word
  return (Piece.marked [' '] (← pieces perform word)).map Marked.char

def markedOf (word : Word) : Execution (List Marked) := do
  return Piece.marked [' '] (← pieces perform (← tildeAt ['/', ':'] word))

def globSettings : Execution Glob.Settings := do
  return ⟨← hasHabit "extglob", ← hasHabit "dotglob", ← hasHabit "nocaseglob"⟩

def pathsOf (field : List Marked) : Execution (List Chars) := do
  let settings ← globSettings
  let isPattern := Pattern.isPattern field || (settings.groups && field.any Pattern.isGroupMark)
  if isPattern && !(← hasOption "noglob") then
    match Glob.paths settings (← files) field with
    | [] => if ← hasHabit "nullglob" then return [] else return [field.map Marked.char]
    | paths => return paths
  else return [field.map Marked.char]

def wordFields (word : Word) : Execution (List Chars) := do
  let word ← tildes word
  let fields := Piece.fields (← separators) (← pieces perform word)
  return (← fields.mapM pathsOf).flatten

def expand (word : Word) : Execution (List Chars) := do
  let words := if ← hasOption "braceexpand" then Brace.expand word else [word]
  return (← words.mapM (wordFields perform)).flatten

end

end Execution

end WorkflowScript.Shell
