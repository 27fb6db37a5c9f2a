import WorkflowScript.Shell.Declare
import WorkflowScript.Shell.Settings
import WorkflowScript.Shell.Tool.Run

namespace WorkflowScript.Shell.Execution

def refuseArguments {α : Type} (command : String) : Execution α := do
  complainOf command "too many arguments".toList
  setStatus 1
  throw (.discard true)

def numberNeeded (command : String) (word : Chars) : Execution Unit :=
  complainOf command (word ++ ": numeric argument required".toList)

def statusUnreadable : Nat := 2

def withoutDashes (words : List Chars) : List Chars :=
  match words with
  | ['-', '-'] :: rest => rest
  | words => words

def askedStatus (command : String) (words : List Chars) : Execution Nat := do
  match withoutDashes words with
  | [] =>
    let p ← process
    return p.endingStatus.getD p.status
  | word :: more =>
    match integer? word with
    | none =>
      numberNeeded command word
      return statusUnreadable
    | some n => if more.isEmpty then return (n % 256).toNat else refuseArguments command

def exit (words : List Chars) : Execution Nat := do throw (.exit (← askedStatus "exit" words))

def leave (words : List Chars) : Execution Nat := do
  let status ← match withoutDashes words with
    | [] => do pure (← process).status
    | words => askedStatus "return" words
  let p ← process
  if p.frames.isEmpty ∧ p.sources = 0 then
    complainOf "return" "can only \x60return' from a function or sourced script".toList
    return statusUnreadable
  else throw (.leaveFunction status)

def statusMiscounted : Nat := 128

def jump (command : String) (signal : Nat → Signal) (words : List Chars) : Execution Nat := do
  let loops := (← process).loops
  if loops = 0 then
    complainOf command "only meaningful in a \x60for', \x60while', or \x60until' loop".toList
    return 0
  match withoutDashes words with
  | [] =>
    setStatus 0
    throw (signal 1)
  | word :: more =>
    match integer? word with
    | none =>
      numberNeeded command word
      throw (.exit statusMiscounted)
    | some n =>
      if !more.isEmpty then refuseArguments command
      else if n ≤ 0 then
        complainOf command (word ++ ": loop count out of range".toList)
        setStatus 1
        throw (.leaveLoops loops)
      else
        setStatus 0
        throw (signal (min n.toNat loops))

def shift (words : List Chars) : Execution Nat := do
  let arguments := (← process).arguments
  let drop (n : Int) : Execution Nat := do
    if n < 0 then
      complainOf "shift" (ofInt n ++ ": shift count out of range".toList)
      return 1
    else if arguments.length < n then return 1
    else
      changeProcess fun p => { p with arguments := arguments.drop n.toNat }
      return 0
  match withoutDashes words with
  | [] => drop 1
  | word :: more =>
    match integer? word with
    | none =>
      numberNeeded "shift" word
      return 1
    | some n => if more.isEmpty then drop n else refuseArguments "shift"

structure OptionSearch where
  index : Nat
  offset : Nat

def nextOption (letters name : Chars) (arguments : List Chars) : Execution Nat := do
  let index := ((integer? (← scalarOf "OPTIND")).map Int.toNat).getD 1
  let offset := (← process).optionOffset
  let quiet := letters.head? == some ':'
  let finish (search : OptionSearch) : Execution Unit := do
    assignText "OPTIND" (ofNat search.index)
    changeProcess fun p => { p with optionOffset := search.offset }
  let noOption : Execution Nat := do
    assign name none false ['?']
    dropVariable "OPTARG".toList
    return 1
  match arguments[index - 1]? with
  | none => noOption
  | some word =>
    if offset = 0 ∧ word = ['-', '-'] then
      finish ⟨index + 1, 0⟩
      noOption
    else
      match word, word[offset + 1]? with
      | '-' :: _, some c =>
        let isLast := word.length ≤ offset + 2
        let after : OptionSearch := if isLast then ⟨index + 1, 0⟩ else ⟨index, offset + 1⟩
        let place := (letters.drop 1).findIdx? (· == c) |>.map (· + 1)
        let place := if letters.head? = some c then some 0 else place
        match (if c = ':' then none else place) with
        | none =>
          finish after
          assign name none false ['?']
          if quiet then assignText "OPTARG" [c]
          else
            dropVariable "OPTARG".toList
            complain ((← process).name ++ ": illegal option -- ".toList ++ [c])
          return 0
        | some place =>
          if letters[place + 1]? = some ':' then
            let value := if isLast then arguments[index]? else some (word.drop (offset + 2))
            match value with
            | some value =>
              finish ⟨if isLast then index + 2 else index + 1, 0⟩
              assign name none false [c]
              assignText "OPTARG" value
              return 0
            | none =>
              finish ⟨index + 1, 0⟩
              if quiet then
                assign name none false [':']
                assignText "OPTARG" [c]
              else
                assign name none false ['?']
                dropVariable "OPTARG".toList
                complain ((← process).name ++ ": option requires an argument -- ".toList ++ [c])
              return 0
          else
            finish after
            assign name none false [c]
            dropVariable "OPTARG".toList
            return 0
      | _, _ => noOption

def getopts (words : List Chars) : Execution Nat := do
  match withoutDashes words with
  | letters :: name :: arguments =>
    if !isName name then
      let _ ← invalidIdentifier "getopts" name
      return 1
    else
      let own := (← process).arguments
      nextOption letters name (if arguments.isEmpty then own else arguments)
  | _ =>
    complain "getopts: usage: getopts optstring name [arg ...]".toList
    return 2

structure ReadText where
  text : List Marked
  taken : Nat
  isEnded : Bool

def loneBackslash : Marked := ⟨'\x01', true⟩

def readTo (raw : Bool) (delimiter : Option Char) : Nat → Chars → ReadText
  | 0, _ => ⟨[], 0, true⟩
  | _ + 1, [] => ⟨[], 0, false⟩
  | n + 1, c :: text =>
    if delimiter = some c then ⟨[], 1, true⟩
    else if c = '\\' ∧ raw = false then
      match text with
      | [] => ⟨[loneBackslash], 1, false⟩
      | d :: text =>
        if d = '\n' then
          let found := readTo raw delimiter (n + 1) text
          { found with taken := found.taken + 2 }
        else
          let found := readTo raw delimiter n text
          { found with text := ⟨d, true⟩ :: found.text, taken := found.taken + 2 }
    else
      let found := readTo raw delimiter n text
      { found with text := ⟨c, false⟩ :: found.text, taken := found.taken + 1 }
termination_by _ text => text.length

def isSeparator (separators : Chars) (m : Marked) : Bool := !m.isQuoted && separators.contains m.char

def isSpaceSeparator (separators : Chars) (m : Marked) : Bool :=
  !m.isQuoted && Piece.isFieldSpace separators m.char

def takeWord (separators : Chars) (text : List Marked) : List Marked × List Marked :=
  let isSpace := isSpaceSeparator separators
  let word := text.takeWhile fun m => !isSeparator separators m
  let rest := (text.drop word.length).dropWhile isSpace
  match rest with
  | m :: more =>
    if isSeparator separators m then (word, more.dropWhile isSpace) else (word, rest)
  | [] => (word, [])

def readWords (separators : Chars) : Nat → List Marked → List (List Marked)
  | 0, _ => []
  | _ + 1, [] => []
  | n + 1, text =>
    let (word, rest) := takeWord separators text
    word :: readWords separators n rest

def lastWord (separators : Chars) (text : List Marked) : List Marked :=
  let (word, rest) := takeWord separators text
  if rest.isEmpty then word
  else (text.reverse.dropWhile (isSpaceSeparator separators)).reverse

def assignTo (word text : Chars) : Execution Unit := do
  let named := NamedValue.read word
  assign named.name named.subscript false text

def readInto (separators : Chars) : List Chars → List Marked → Execution Unit
  | [], _ => return ()
  | [name], text => assignTo name ((lastWord separators text).map Marked.char)
  | name :: names, text => do
    let (word, rest) := takeWord separators text
    assignTo name (word.map Marked.char)
    readInto separators names rest

def readLine (words : List Chars) : Execution Nat := do
  match Options.read (.first "ers" "adinNptu") words with
  | .error _ =>
    complainOf "read" "invalid option".toList
    return 2
  | .ok options =>
    match options.operands.find? fun name => !isName (NamedValue.read name).name with
    | some name =>
      let _ ← invalidIdentifier "read" name
      return 1
    | none =>
      let descriptor := ((options.value? 'u').bind (Text.digits? 10)).getD 0
      let exact := (options.value? 'N').bind (Text.digits? 10)
      let most := exact.or ((options.value? 'n').bind (Text.digits? 10))
      let delimiter :=
        if exact.isSome then none
        else some (((options.value? 'd').map fun text => text.head?.getD '\x00').getD '\n')
      match ← pending? descriptor with
      | none =>
        complainOf "read" ("read error: ".toList ++ ofNat descriptor ++ ": Bad file descriptor".toList)
        return 1
      | some text =>
        let text := if (← channel? descriptor).any fun c => c.2 == .sink then [] else text
        let found := readTo (options.has 'r') delimiter (most.getD (text.length + 1)) text
        consume descriptor found.taken
        let ifs := (← scalar? "IFS".toList).getD [' ', '\t', '\n']
        let shown := found.text.filter fun m => m.char != '\x00'
        let trimmed := shown.dropWhile (isSpaceSeparator ifs)
        let status := if found.isEnded then 0 else 1
        let stored ← succeeds do
          match options.value? 'a', options.operands with
          | some name, _ =>
            let fields := readWords ifs (trimmed.length + 1) trimmed
            assignItems name false (fields.map fun field => (none, field.map Marked.char))
          | none, [] => assignText "REPLY" (shown.map Marked.char)
          | none, names =>
            if exact.isSome then
              assignTo (names.head?.getD []) (shown.map Marked.char)
              for name in names.drop 1 do assignTo name []
            else readInto ifs names trimmed
        return if stored then status else 1

def delimitedLines (delimiter : Char) (text : Chars) : List Chars :=
  match (text.splitOn delimiter).reverse with
  | [] => []
  | last :: before =>
    let ended := before.reverse.map (· ++ [delimiter])
    if last.isEmpty then ended else ended ++ [last]

def readLines (words : List Chars) : Execution Nat := do
  match Options.read (.first "t" "dnOsuCc") words with
  | .error _ =>
    complainOf "mapfile" "invalid option".toList
    return 2
  | .ok options =>
    let size (c : Char) : Nat := ((options.value? c).bind (Text.digits? 10)).getD 0
    let delimiter := ((options.value? 'd').map fun text => text.head?.getD '\x00').getD '\n'
    let descriptor := size 'u'
    let all := delimitedLines delimiter ((← pending? descriptor).getD [])
    let most := size 'n'
    let taken := if most = 0 then all else all.take (size 's' + most)
    consume descriptor taken.flatten.length
    let lines := (taken.drop (size 's')).map fun line =>
      if options.has 't' && line.getLast? == some delimiter then line.dropLast else line
    let name := options.operands.head?.getD "MAPFILE".toList
    let stored ← succeeds do
      let start := size 'O'
      let items := lines.zipIdx.map fun line => (some (ofNat (start + line.2)), line.1)
      assignItems name (options.value? 'O').isSome items
    return statusOf stored

def pathOf (place : Location) : Chars := locationPath place

def moveTo (path shown : Chars) (prints : Bool) : Execution Nat := do
  let files ← files
  let refuse (fault : FileFault) : Execution Nat := do
    complainOf "cd" (shown ++ ": ".toList ++ reason fault)
    return 1
  match files.locate (toPath path) with
  | .error fault => refuse fault
  | .ok place =>
    match files.entry? place with
    | none => refuse .notFound
    | some .directory =>
      assignText "OLDPWD" (← scalarOf "PWD")
      changeProcess fun p => { p with here := place }
      assignText "PWD" (pathOf place)
      if prints then printLine (pathOf place)
      return 0
    | some _ => refuse .notDirectory

def changeDirectory (words : List Chars) : Execution Nat := do
  match Options.read (.first "LPe@" "") words with
  | .error _ =>
    complainOf "cd" "invalid option".toList
    return 2
  | .ok options =>
    match options.operands with
    | [] =>
      match ← scalar? "HOME".toList with
      | none =>
        complainOf "cd" "HOME not set".toList
        return 1
      | some home => if home.isEmpty then return 0 else moveTo home home false
    | [['-']] =>
      match ← scalar? "OLDPWD".toList with
      | none =>
        complainOf "cd" "OLDPWD not set".toList
        return 1
      | some [] =>
        printLine []
        return 0
      | some old => moveTo old old true
    | [path] => if path.isEmpty then return 0 else moveTo path path false
    | _ =>
      complainOf "cd" "too many arguments".toList
      return 1

def whereIsHere (words : List Chars) : Execution Nat := do
  match Options.read (.first "LP" "") words with
  | .error _ =>
    complainOf "pwd" "invalid option".toList
    return 2
  | .ok _ =>
    printLine (pathOf (← process).here)
    return 0

def directories : Execution (List Chars) := do
  let p ← process
  return pathOf p.here :: p.kept

def shortened (path : Chars) : Execution Chars := do
  let home := (← scalar? "HOME".toList).getD []
  let rest := path.drop home.length
  if 1 < home.length ∧ home.isPrefixOf path = true ∧ (rest = [] ∨ rest.head? = some '/') then
    return '~' :: rest
  else return path

def showDirectories (options : Chars) : Execution Unit := do
  let found ← (← directories).mapM fun path =>
    if options.contains 'l' then return path else shortened path
  if options.contains 'v' then
    for (path, i) in found.zipIdx do
      let number := ofNat i
      printLine (List.replicate (2 - number.length) ' ' ++ number ++ ' ' :: ' ' :: path)
  else if options.contains 'p' then
    for path in found do printLine path
  else printLine ([' '].intercalate found)

def rotation? (size : Nat) : Chars → Option (Option Nat)
  | '+' :: digits => (Text.digits? 10 digits).map fun n => if n < size then some n else none
  | '-' :: digits => (Text.digits? 10 digits).map fun n => if n < size then some (size - 1 - n) else none
  | _ => none

def refuseRotation (command : String) (word : Chars) : Execution Nat := do
  let isAlone := (← directories).length = 1
  complainOf command (if isAlone then "directory stack empty".toList
    else word ++ ": directory stack index out of range".toList)
  return 1

def listDirectories (words : List Chars) : Execution Nat := do
  match words with
  | [] =>
    showDirectories []
    return 0
  | word :: _ =>
    let all ← directories
    match rotation? all.length word with
    | some (some n) =>
      printLine (← shortened (all.getD n []))
      return 0
    | some none => refuseRotation "dirs" word
    | none =>
      match Options.read (.first "clpv" "") words with
      | .error _ =>
        complainOf "dirs" (word ++ ": invalid number".toList)
        return 2
      | .ok options =>
        if options.has 'c' then changeProcess fun p => { p with kept := [] }
        else showDirectories (options.given.map Prod.fst)
        return 0

def goTo (command : String) (path : Chars) (kept : List Chars) : Execution Nat := do
  let status ← moveTo path path false
  if status = 0 then
    changeProcess fun p => { p with kept := kept }
    showDirectories []
  else if command = "popd" then return 1
  return status

def pushDirectory (words : List Chars) : Execution Nat := do
  let all ← directories
  match words.filter (· != "--".toList) with
  | [] =>
    match all with
    | here :: next :: rest => goTo "pushd" next (here :: rest)
    | _ =>
      complainOf "pushd" "no other directory".toList
      return 1
  | [word] =>
    match rotation? all.length word with
    | some (some n) =>
      match all.drop n ++ all.take n with
      | next :: rest => goTo "pushd" next rest
      | [] => return 1
    | some none => refuseRotation "pushd" word
    | none =>
      if word.head? = some '-' ∧ word ≠ ['-'] then
        complainOf "pushd" (word ++ ": invalid number".toList)
        return 2
      else if word = ['-'] then goTo "pushd" (← scalarOf "OLDPWD") all
      else goTo "pushd" word all
  | _ =>
    complainOf "pushd" "too many arguments".toList
    return 1

def popDirectory (words : List Chars) : Execution Nat := do
  let all ← directories
  let remove (n : Nat) : Execution Nat := do
    match all.take n ++ all.drop (n + 1) with
    | [] =>
      complainOf "popd" "directory stack empty".toList
      return 1
    | next :: rest =>
      if n = 0 then goTo "popd" next rest
      else
        changeProcess fun p => { p with kept := rest }
        showDirectories []
        return 0
  match words.filter (· != "--".toList) with
  | [] => remove 0
  | word :: _ =>
    match rotation? all.length word with
    | some (some n) => remove n
    | some none => refuseRotation "popd" word
    | none =>
      complainOf "popd" (word ++ ": invalid argument".toList)
      return 2

def calculate (words : List Chars) : Execution Nat := do
  if words.isEmpty then
    complainOf "let" "expression expected".toList
    return 1
  let rec all : List Chars → Int → Execution Nat
    | [], value => return if value = 0 then 1 else 0
    | word :: words, _ => do
      match ← evaluate? word with
      | .ok value => all words value
      | .error fault =>
        complainOfExpression "let: ".toList fault
        return 1
  tryCatch (all words 0) fun signal =>
    match signal with
    | .discard _ => return 1
    | signal => throw signal

def printFormat (words : List Chars) : Execution Nat := do
  match Options.read (.first "" "v") words with
  | .error _ =>
    complainOf "printf" "invalid option".toList
    return 2
  | .ok options =>
    match options.operands with
    | [] =>
      complain "printf: usage: printf [-v var] format [arguments]".toList
      return 2
    | format :: arguments =>
      let (text, status) ← formatted (complainOf "printf") format arguments
      match options.value? 'v' with
      | none =>
        if ← write 1 text then return status
        complainOf "printf" "write error: Bad file descriptor".toList
        return 1
      | some name =>
        let named := NamedValue.read name
        if !isName named.name then
          let _ ← invalidIdentifier "printf" name
          return 2
        else return if ← succeeds (assign named.name named.subscript false text) then status else 1

def showWords (words : List Chars) : Execution Nat := do
  let text := Format.echo words
  if ← write 1 text then return 0
  complainOf "echo" "write error: Bad file descriptor".toList
  return 1

def bracketTest (words : List Chars) : Execution Nat := do
  match words.getLast? with
  | some [']'] => runTest "[" words.dropLast
  | _ =>
    complainOf "[" "missing \x60]'".toList
    return 2

def waitFor (words : List Chars) : Execution Nat := do
  match Options.read (.first "fn" "p") words with
  | .error _ =>
    complainOf "wait" "invalid option".toList
    return 2
  | .ok options =>
    let jobs := (← process).jobs
    let finished := (← world).finished
    let statusOfJob (word : Chars) : Execution Nat := do
      match Text.digits? 10 word with
      | some number =>
        match (if jobs.contains number then finished.lookup number else none) with
        | some status => return status
        | none =>
          complainOf "wait" ("pid ".toList ++ word ++ " is not a child of this shell".toList)
          return 127
      | none =>
        complainOf "wait" ("\x60".toList ++ word ++ "': not a pid or valid job spec".toList)
        return if word.head? = some '%' then 127 else 1
    let statuses ← options.operands.mapM statusOfJob
    return statuses.getLast?.getD 0

def kill (words : List Chars) : Execution Nat := do
  match words with
  | [] =>
    complain "kill: usage: kill [-s sigspec | -n signum | -sigspec] pid | jobspec ... or kill -l [sigspec]".toList
    return 2
  | ['-', 'l'] :: names =>
    let shown ← names.mapM fun name => do
      match trapName? name with
      | some found =>
        let short := (found.toList.drop (if "SIG".isPrefixOf found then 3 else 0))
        let number := (signalNames.findIdx? fun n => n.toList == short).map (· + 1)
        if name.all Char.isDigit then printLine short else printLine (ofNat (number.getD 0))
        return true
      | none =>
        complainOf "kill" (name ++ ": invalid signal specification".toList)
        return false
    if names.isEmpty then
      for (name, i) in signalNames.zipIdx do printLine (ofNat (i + 1) ++ ") SIG".toList ++ name.toList)
    return statusOf (shown.all id)
  | words =>
    for word in words.filter fun word => word.head? != some '-' do
      complainOf "kill" (['('] ++ word ++ ") - No such process".toList)
    return 1

def mask (words : List Chars) : Execution Nat := do
  match words.filter (· != "-p".toList) with
  | [] =>
    printLine "0022".toList
    return 0
  | ['-', 'S'] :: _ =>
    printLine "u=rwx,g=rx,o=rx".toList
    return 0
  | mode :: _ =>
    match Text.digits? 8 mode with
    | some _ => return 0
    | none =>
      if (modeRuns? mode).isSome then return 0
      complainOf "umask" (mode ++ ": octal number out of range".toList)
      return 1

def times (_ : List Chars) : Execution Nat := do
  printLine "0m0.000s 0m0.000s".toList
  printLine "0m0.000s 0m0.000s".toList
  return 0

def limit (words : List Chars) : Execution Nat := do
  match Options.read (.first "SHabcdefiklmnpqrstuvxPRT" "") words with
  | .error _ =>
    complainOf "ulimit" "invalid option".toList
    return 2
  | .ok options =>
    if options.operands.isEmpty then printLine "unlimited".toList
    return 0

def hash (words : List Chars) : Execution Nat := do
  match Options.read (.first "rltd" "p") words with
  | .error _ =>
    complainOf "hash" "invalid option".toList
    return 2
  | .ok options =>
    let missing := options.operands.filter fun name =>
      !(tools.any fun tool => tool.1.toList == name)
    for name in missing do complainOf "hash" (name ++ ": not found".toList)
    if options.operands.isEmpty && options.given.isEmpty then printLine "hash: hash table empty".toList
    return statusOf missing.isEmpty

def aliasCommand (words : List Chars) : Execution Nat := do
  let missing := words.filter fun word => !word.contains '=' && word.head? != some '-'
  for word in missing do complainOf "alias" (word ++ ": not found".toList)
  return statusOf missing.isEmpty

def unalias (words : List Chars) : Execution Nat := do
  match words with
  | [] =>
    complain "unalias: usage: unalias [-a] name [name ...]".toList
    return 2
  | [['-', 'a']] => return 0
  | words =>
    for word in words do complainOf "unalias" (word ++ ": not found".toList)
    return 1

def noJobControl (command : String) (_ : List Chars) : Execution Nat := do
  complainOf command "no job control".toList
  return 1

def builtins : List (String × (List Chars → Execution Nat)) :=
  [(":", fun _ => return 0), ("[", bracketTest), ("alias", aliasCommand), ("bg", noJobControl "bg"),
    ("bind", fun _ => return 0), ("break", jump "break" .leaveLoops), ("caller", fun _ => return 1),
    ("cd", changeDirectory), ("complete", fun _ => return 0), ("continue", jump "continue" .nextRound),
    ("dirs", listDirectories), ("disown", fun _ => return 1), ("echo", showWords),
    ("enable", fun _ => return 0), ("exit", exit),
    ("false", fun _ => return 1), ("fc", fun _ => return 0), ("fg", noJobControl "fg"), ("getopts", getopts),
    ("hash", hash), ("history", fun _ => return 0), ("jobs", fun _ => return 0), ("kill", kill),
    ("let", calculate), ("logout", exit), ("mapfile", readLines), ("popd", popDirectory),
    ("printf", printFormat), ("pushd", pushDirectory), ("pwd", whereIsHere), ("read", readLine),
    ("readarray", readLines), ("return", leave), ("set", set), ("shift", shift), ("shopt", shopt),
    ("suspend", noJobControl "suspend"), ("test", runTest "test"), ("times", times), ("trap", trap),
    ("true", fun _ => return 0),
    ("ulimit", limit), ("umask", mask), ("unalias", unalias), ("unset", unset)]

def declarers : List String := ["declare", "export", "local", "readonly", "typeset"]

def runners : List String := [".", "builtin", "command", "eval", "exec", "source", "type", "wait"]

def isBuiltin (name : String) : Bool :=
  (builtins.lookup name).isSome || declarers.contains name || runners.contains name

end WorkflowScript.Shell.Execution
