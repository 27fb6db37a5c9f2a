import WorkflowScript.Shell.Channel
import WorkflowScript.Shell.Glob
import WorkflowScript.Shell.Options

namespace WorkflowScript.Shell.Execution

def complainAs (program : String) (text : Chars) : Execution Unit :=
  complain (program.toList ++ ": ".toList ++ text)

def reason (fault : FileFault) : Chars :=
  match fault with
  | .notFound => "No such file or directory".toList
  | .fileExists => "File exists".toList
  | .notDirectory => "Not a directory".toList
  | .isDirectory => "Is a directory".toList
  | .nameTooLong => "File name too long".toList
  | .notText => "Invalid argument".toList

def withOptions (program : String) (known : Options.Known) (refused : Nat) (words : List Chars)
    (run : Options → Execution Nat) : Execution Nat :=
  match Options.read known words with
  | .ok options => run options
  | .error message => do
    complainAs program message
    return refused

def descriptorOf? (path : Chars) : Option Nat :=
  match String.ofList path with
  | "/dev/stdin" => some 0
  | "/dev/stdout" => some 1
  | "/dev/stderr" => some 2
  | _ =>
    if "/dev/fd/".toList.isPrefixOf path then Text.digits? 10 (path.drop 8)
    else if "/proc/self/fd/".toList.isPrefixOf path then Text.digits? 10 (path.drop 14)
    else none

def isDirectoryInput (descriptor : Nat) : Execution Bool := do
  match ← channel? descriptor with
  | some (_, .file place _ _) => return (← world).files.entry? place == some .directory
  | _ => return false

def contentOf (path : Chars) : Execution (Except FileFault Chars) := do
  let descriptor := if path = ['-'] then some 0 else descriptorOf? path
  match descriptor with
  | some descriptor =>
    if ← isDirectoryInput descriptor then return .error .isDirectory
    match ← readAll descriptor with
    | some text => return .ok text
    | none => return .error .notFound
  | none => return ((← files).read (toPath path)).map fun content => ofBytes content.toBytes

def contentsOf (program : String) (paths : List Chars) : Execution (List (Chars × Chars) × Bool) := do
  let paths := if paths.isEmpty then [['-']] else paths
  let found ← paths.mapM fun path => do
    match ← contentOf path with
    | .ok text => return some (path, text)
    | .error fault =>
      complainAs program (path ++ ": ".toList ++ reason fault)
      return none
  return (found.filterMap id, found.all Option.isSome)

def statusOf (succeeded : Bool) : Nat := if succeeded then 0 else 1

def wholeInput (program : String) (paths : List Chars) : Execution (Chars × Bool) := do
  let (found, succeeded) ← contentsOf program paths
  return (found.flatMap Prod.snd, succeeded)

def numbered (text : Chars) (onlyFilled : Bool) : Chars :=
  let lines := (text.splitOn '\n')
  let (lines, last) := if lines.getLast? = some [] then (lines.dropLast, true) else (lines, false)
  let shown := lines.foldl (fun (n, shown) line =>
    if onlyFilled ∧ line.isEmpty then (n, line :: shown)
    else
      let digits := ofNat n
      (n + 1, (List.replicate (6 - digits.length) ' ' ++ digits ++ '\t' :: line) :: shown)) (1, [])
  ['\n'].intercalate shown.2.reverse ++ if last && !lines.isEmpty then ['\n'] else []

def squeezeBlank : Bool → List Chars → List Chars
  | _, [] => []
  | wasEmpty, line :: lines =>
    if wasEmpty && line.isEmpty then squeezeBlank true lines else line :: squeezeBlank line.isEmpty lines

def cat (words : List Chars) : Execution Nat :=
  withOptions "cat" ⟨"AbeEnstTuv", "", [("number", 'n'), ("number-nonblank", 'b'), ("show-ends", 'E'),
      ("squeeze-blank", 's'), ("show-tabs", 'T'), ("show-all", 'A')], true⟩ 1 words fun options => do
    let (text, succeeded) ← wholeInput "cat" options.operands
    let isOn (letters : String) : Bool := letters.toList.any options.has
    let text := if isOn "s" then ['\n'].intercalate (squeezeBlank false (text.splitOn '\n')) else text
    let text := if isOn "TtA" then text.flatMap fun c => if c = '\t' then ['^', 'I'] else [c] else text
    let text := if isOn "EeA" then text.flatMap fun c => if c = '\n' then ['$', '\n'] else [c] else text
    let text := if isOn "b" then numbered text true else if isOn "n" then numbered text false else text
    print text
    return statusOf succeeded

def writeFile (program : String) (path : Chars) (appends : Bool) (text : Chars) : Execution Bool := do
  match descriptorOf? path with
  | some descriptor => write descriptor text
  | none =>
    let files ← files
    let old := if appends then
        match files.read (toPath path) with
        | .ok content => content.toBytes
        | .error _ => []
      else []
    match files.write (toPath path) (.ofBytes (old ++ toBytes text)) with
    | .ok files =>
      setFiles files
      return true
    | .error fault =>
      complainAs program (path ++ ": ".toList ++ reason fault)
      return false

def tee (words : List Chars) : Execution Nat :=
  withOptions "tee" ⟨"aip", "", [("append", 'a')], true⟩ 1 words fun options => do
    let text := (← readAll 0).getD []
    print text
    let written ← options.operands.mapM fun path => writeFile "tee" path (options.has 'a') text
    return statusOf (written.all id)

def baseName (path : Chars) : Chars :=
  let kept := (path.reverse.dropWhile (· == '/')).reverse
  if kept.isEmpty then (if path.isEmpty then [] else ['/']) else (kept.reverse.takeWhile (· != '/')).reverse

def directoryName (path : Chars) : Chars :=
  let kept := (path.reverse.dropWhile (· == '/')).reverse
  if kept.isEmpty then (if path.isEmpty then ['.'] else ['/'])
  else
    let before := kept.reverse.dropWhile (· != '/')
    if before.isEmpty then ['.']
    else
      let before := (before.dropWhile (· == '/')).reverse
      if before.isEmpty then ['/'] else before

def listed (all almostAll : Bool) (names : List Chars) : List Chars :=
  let names := Glob.sorted names
  if all then ['.'] :: ['.', '.'] :: names
  else if almostAll then names
  else names.filter fun name => name.head? != some '.'

def namesBelow (path : Chars) : Execution (List Chars) := do
  let files ← files
  match files.locate (toPath path) with
  | .ok place => return (Glob.namesAt files place).map ofString
  | .error _ => return []

def marked (options : Options) (directory name : Chars) : Execution Chars := do
  let path := if directory.isEmpty then name else directory ++ '/' :: name
  let isDirectory := (← files).isDirectory (toPath path)
  return if isDirectory && (options.has 'p' || options.has 'F') then name ++ ['/'] else name

def listDirectory (options : Options) (path : Chars) : Execution Unit := do
  let names := listed (options.has 'a') (options.has 'A') (← namesBelow path)
  let names := if options.has 'r' then names.reverse else names
  for name in names do printLine (← marked options path name)

def listAll (options : Options) : Nat → Chars → Execution Unit
  | 0, _ => return ()
  | n + 1, path => do
    printLine (path ++ [':'])
    listDirectory options path
    let names := listed false (options.has 'a' || options.has 'A') (← namesBelow path)
    for name in names do
      let inner := path ++ '/' :: name
      if (← files).isDirectory (toPath inner) then
        print ['\n']
        listAll options n inner

def deepest : Nat := 64

def ls (words : List Chars) : Execution Nat :=
  withOptions "ls" (.ofLetters "1aACdFGhklnopqrRsStUuXx" "") 2 words fun options => do
    let operands := Glob.sorted options.operands
    let files ← files
    let there := operands.filter fun path => files.exists? (toPath path)
    for path in operands do
      match files.locate (toPath path), files.exists? (toPath path) with
      | .error fault, _ => complainAs "ls" ("cannot access '".toList ++ path ++ "': ".toList ++ reason fault)
      | .ok _, false =>
        complainAs "ls" ("cannot access '".toList ++ path ++ "': ".toList ++ reason .notFound)
      | .ok _, true => pure ()
    let isListed (path : Chars) : Bool := files.isDirectory (toPath path) && !options.has 'd'
    let single := there.filter fun path => !isListed path
    for path in single do printLine (← marked options [] path)
    let directories := if operands.isEmpty then (if options.has 'd' then [] else [['.']]) else there.filter isListed
    if operands.isEmpty ∧ options.has 'd' = true then printLine ['.']
    for (path, i) in directories.zipIdx do
      if 0 < i ∨ ¬ single.isEmpty then print ['\n']
      if options.has 'R' then listAll options deepest path
      else
        if 1 < operands.length then printLine (path ++ [':'])
        listDirectory options path
    return if there.length < operands.length then 2 else 0

def mkdir (words : List Chars) : Execution Nat :=
  withOptions "mkdir" ⟨"pv", "m", [("parents", 'p'), ("mode", 'm')], true⟩ 1 words fun options => do
    if options.operands.isEmpty then
      complainAs "mkdir" "missing operand".toList
      return 1
    let made ← options.operands.mapM fun path => do
      let files ← files
      let name := toPath path
      let refuse (fault : FileFault) : Execution Bool := do
        complainAs "mkdir" ("cannot create directory '".toList ++ path ++ "': ".toList ++ reason fault)
        return false
      if options.has 'p' then
        match files.makeDirectories name with
        | .ok files =>
          setFiles files
          return true
        | .error fault => refuse fault
      else
        let kept := (path.reverse.dropWhile (· == '/')).reverse
        match files.locate (toPath (if kept.isEmpty then path else kept)) with
        | .error fault => refuse fault
        | .ok place =>
          if (files.entry? place).isSome then refuse .fileExists
          else
            setFiles (files.set place .directory)
            return true
    return statusOf (made.all id)

def dropEntries (places : Location → Bool) : Execution Unit := do
  let files ← files
  setFiles { files with entries := files.entries.filter fun e => !places e.1 }

def rm (words : List Chars) : Execution Nat :=
  withOptions "rm" ⟨"rRfidv", "", [("recursive", 'r'), ("force", 'f')], true⟩ 1 words fun options => do
    if options.operands.isEmpty ∧ options.has 'f' = false then
      complainAs "rm" "missing operand".toList
      return 1
    let removed ← options.operands.mapM fun path => do
      let files ← files
      let refuse (fault : FileFault) : Execution Bool := do
        complainAs "rm" ("cannot remove '".toList ++ path ++ "': ".toList ++ reason fault)
        return false
      match files.locate (toPath path) with
      | .error fault =>
        if options.has 'f' ∧ (fault = .notFound ∨ fault = .notDirectory) then return true else refuse fault
      | .ok place =>
        match files.entry? place with
        | none => if options.has 'f' then return true else refuse .notFound
        | some .directory =>
          let isEmpty := (Glob.namesAt files place).isEmpty
          if options.has 'r' ∨ options.has 'R' ∨ (options.has 'd' ∧ isEmpty = true) then
            if (baseName path = ['.'] ∨ baseName path = ['.', '.']) then
              complainAs "rm" ("refusing to remove '.' or '..' directory: skipping '".toList ++ path ++ ['\''])
              return false
            dropEntries fun p => place.isPrefixOf p
            return true
          else refuse .isDirectory
        | some _ =>
          dropEntries (· == place)
          return true
    return statusOf (removed.all id)

def rmdir (words : List Chars) : Execution Nat :=
  withOptions "rmdir" ⟨"pv", "", [("parents", 'p')], true⟩ 1 words fun options => do
    let removed ← options.operands.mapM fun path => do
      let files ← files
      let refuse (text : Chars) : Execution Bool := do
        complainAs "rmdir" ("failed to remove '".toList ++ path ++ "': ".toList ++ text)
        return false
      match files.locate (toPath path) with
      | .error fault => refuse (reason fault)
      | .ok place =>
        match files.entry? place with
        | none => refuse (reason .notFound)
        | some .directory =>
          if (Glob.namesAt files place).isEmpty then
            dropEntries (· == place)
            return true
          else refuse "Directory not empty".toList
        | some _ => refuse (reason .notDirectory)
    return statusOf (removed.all id && !options.operands.isEmpty)

def arrival (target source : Chars) : Execution Chars := do
  if (← files).isDirectory (toPath target) then
    let base := (target.reverse.dropWhile (· == '/')).reverse
    return base ++ '/' :: baseName source
  else return target

def copyEntries (source target : Location) : Execution Unit := do
  let files ← files
  let below := files.entries.filter fun e => source.isPrefixOf e.1
  setFiles (below.foldl (fun files e => files.set (target ++ e.1.drop source.length) e.2) files)
  changeWorld fun w =>
    let runnable := w.programs.filter source.isPrefixOf
    { w with programs := w.programs ++ runnable.map fun p => target ++ p.drop source.length }

def copyOne (program : String) (recursive moves : Bool) (source target : Chars) : Execution Bool := do
  let refuse (text : Chars) : Execution Bool := do
    complainAs program text
    return false
  let files ← files
  let missing := "cannot stat '".toList ++ source ++ "': No such file or directory".toList
  match files.locate (toPath source) with
  | .error _ => refuse missing
  | .ok place =>
    match files.entry? place with
    | none => refuse missing
    | some entry =>
      if entry = .directory ∧ recursive = false then
        refuse ("-r not specified; omitting directory '".toList ++ source ++ ['\''])
      else
        match files.locate (toPath (← arrival target source)) with
        | .error fault =>
          refuse ("cannot create regular file '".toList ++ target ++ "': ".toList ++ reason fault)
        | .ok new =>
          if new = place then
            refuse (['\''] ++ source ++ "' and '".toList ++ target ++ "' are the same file".toList)
          else if entry = .directory ∧ place.isPrefixOf new then
            refuse ("cannot copy a directory, '".toList ++ source ++ "', into itself".toList)
          else
            match entry, files.entry? new with
            | .sink, _ => setFiles (files.set new (.file .empty))
            | _, some .sink => pure ()
            | _, _ => copyEntries place new
            if moves then dropEntries fun p => place.isPrefixOf p
            return true

def copyAll (program : String) (recursive moves : Bool) (operands : List Chars) : Execution Nat := do
  match operands.reverse with
  | [] =>
    complainAs program "missing file operand".toList
    return 1
  | [source] =>
    complainAs program ("missing destination file operand after '".toList ++ source ++ ['\''])
    return 1
  | target :: sources =>
    if 1 < sources.length ∧ (← files).isDirectory (toPath target) = false then
      complainAs program ("target '".toList ++ target ++ "': No such file or directory".toList)
      return 1
    let done ← sources.reverse.mapM fun source => copyOne program recursive moves source target
    return statusOf (done.all id)

def cp (words : List Chars) : Execution Nat :=
  withOptions "cp" ⟨"arRfipTv", "", [("recursive", 'r')], true⟩ 1 words fun options =>
    copyAll "cp" (options.has 'r' || options.has 'R' || options.has 'a') false options.operands

def mv (words : List Chars) : Execution Nat :=
  withOptions "mv" ⟨"finTv", "", [("force", 'f')], true⟩ 1 words fun options =>
    copyAll "mv" true true options.operands

def touch (words : List Chars) : Execution Nat :=
  withOptions "touch" ⟨"acmh", "drt", [("no-create", 'c')], true⟩ 1 words fun options => do
    if options.operands.isEmpty then
      complainAs "touch" "missing file operand".toList
      return 1
    let touched ← options.operands.mapM fun path => do
      let files ← files
      if files.exists? (toPath path) || options.has 'c' || path == ['-'] then return true
      match files.write (toPath path) .empty with
      | .ok files =>
        setFiles files
        return true
      | .error fault =>
        complainAs "touch" ("cannot touch '".toList ++ path ++ "': ".toList ++ reason fault)
        return false
    return statusOf (touched.all id)

def modeRuns? (mode : Chars) : Option (Option Bool) :=
  match Text.digits? 8 mode with
  | some n => some (some (n / 64 % 2 == 1))
  | none =>
    let clause (text : Chars) : Option (Option Bool) :=
      let who := text.takeWhile fun c => "ugoa".toList.contains c
      match text.drop who.length with
      | operator :: rights =>
        if !("+-=".toList.contains operator && rights.all fun c => "rwxXst".toList.contains c) then none
        else if !(who.isEmpty || who.contains 'u' || who.contains 'a') then some none
        else if rights.contains 'x' then some (some (operator != '-'))
        else some (if operator = '=' then some false else none)
      | [] => none
    ((mode.splitOn ',').mapM clause).map fun found => (found.filterMap id).getLast?

def chmod (words : List Chars) : Execution Nat := do
  match words.filter fun word => word != "-R".toList && word != "-v".toList && word != "-f".toList with
  | mode :: first :: more =>
    match modeRuns? mode with
    | none =>
      complainAs "chmod" ("invalid mode: '".toList ++ mode ++ ['\''])
      return 1
    | some runs =>
      let done ← (first :: more).mapM fun path => do
        let files ← files
        match files.locate (toPath path), files.exists? (toPath path) with
        | .ok place, true =>
          changeWorld fun w =>
            { w with programs := match runs with
                | some true => place :: w.programs
                | some false => w.programs.filter (· != place)
                | none => w.programs }
          return true
        | _, _ =>
          complainAs "chmod" ("cannot access '".toList ++ path ++ "': No such file or directory".toList)
          return false
      return statusOf (done.all id)
  | _ =>
    complainAs "chmod" "missing operand".toList
    return 1

def locationPath (place : Location) : Chars := '/' :: ['/'].intercalate (place.map ofString)

def realpath (words : List Chars) : Execution Nat := do
  let operands := words.filter fun word => word.head? != some '-'
  let files ← files
  let done ← operands.mapM fun path => do
    match files.locate (toPath path) with
    | .ok place =>
      printLine (locationPath place)
      return true
    | .error fault =>
      complainAs "realpath" (path ++ ": ".toList ++ reason fault)
      return false
  return statusOf (done.all id && !operands.isEmpty)

def pathsBelow : Nat → Chars → Execution (List Chars)
  | 0, path => return [path]
  | n + 1, path => do
    if (← files).isDirectory (toPath path) then
      let base := if path.getLast? = some '/' then path else path ++ ['/']
      let inner ← (← namesBelow path).mapM fun name => pathsBelow n (base ++ name)
      return path :: inner.flatten
    else return [path]

end WorkflowScript.Shell.Execution
