import WorkflowScript.Shell.Format
import WorkflowScript.Shell.Test
import WorkflowScript.Shell.Tool.Files
import WorkflowScript.Shell.Tool.Numbers
import WorkflowScript.Shell.Tool.Search
import WorkflowScript.Shell.Tool.StreamEdit

namespace WorkflowScript.Shell.Execution

def numberOption (words : List Chars) : List Chars :=
  match words with
  | ('-' :: c :: digits) :: more =>
    if (c :: digits).all Char.isDigit then ['-', 'n'] :: (c :: digits) :: more else words
  | words => words

def partOf (program : String) (mark : Char) (words : List Chars)
    (lines : Lines.Amount → List Chars → List Chars) (chars : Lines.Amount → Chars → Chars) :
    Execution Nat :=
  withOptions program ⟨"qvf", "nc", [("lines", 'n'), ("bytes", 'c'), ("quiet", 'q')], true⟩ 1
      (numberOption words) fun options => do
    let (found, succeeded) ← contentsOf program options.operands
    let byChars := options.last? "nc" = some 'c'
    match Lines.amount? mark ((options.value? (if byChars then 'c' else 'n')).getD "10".toList) with
    | none =>
      complainAs program "invalid number of lines".toList
      return 1
    | some amount =>
      let titled := (1 < options.operands.length || options.has 'v') && !options.has 'q'
      for ((path, text), i) in found.zipIdx do
        if titled then
          let title := if path = ['-'] then "standard input".toList else path
          print ((if 0 < i then ['\n'] else []) ++ "==> ".toList ++ title ++ " <==\n".toList)
        print (if byChars then chars amount text else (lines amount (Lines.whole text)).flatten)
      return statusOf succeeded

def head (words : List Chars) : Execution Nat := partOf "head" '-' words Lines.Amount.head Lines.Amount.head

def tail (words : List Chars) : Execution Nat := partOf "tail" '+' words Lines.Amount.tail Lines.Amount.tail

def isFileInput : Execution Bool := do
  match ← channel? 0 with
  | some (_, .file _ _ _) => return true
  | _ => return false

def wc (words : List Chars) : Execution Nat :=
  withOptions "wc" ⟨"lwcm", "", [("lines", 'l'), ("words", 'w'), ("bytes", 'c'), ("chars", 'm')], true⟩ 1 words
      fun options => do
    let isFile ← isFileInput
    let (found, succeeded) ← contentsOf "wc" options.operands
    let given := options.given.isEmpty
    let columns (c : Lines.Counts) : List Nat :=
      (if given || options.has 'l' then [c.lines] else []) ++
        (if given || options.has 'w' then [c.words] else []) ++
        (if given || options.has 'c' || options.has 'm' then [c.characters] else [])
    let rows := found.map fun f => (f.1, Lines.counts f.2)
    let total := rows.foldl (fun sum r => sum.add r.2) ⟨0, 0, 0⟩
    let isPlain (path : Chars) : Bool := if path = ['-'] then isFile else (descriptorOf? path).isNone
    let least := if rows.all fun r => isPlain r.1 then 1 else 7
    let width :=
      if options.operands.length ≤ 1 ∧ (columns total).length = 1 then 1
      else max least (ofNat total.characters).length
    let row (name : Chars) (counts : Lines.Counts) : Chars :=
      [' '].intercalate ((columns counts).map fun n => Lines.padLeft width (ofNat n)) ++
        if options.operands.isEmpty then [] else ' ' :: name
    for r in rows do printLine (row r.1 r.2)
    if 1 < options.operands.length then printLine (row "total".toList total)
    return statusOf succeeded

def orderOf (letters : Chars) : Lines.Order :=
  ⟨letters.any fun c => c == 'n' || c == 'g', letters.contains 'f', letters.contains 'r', letters.contains 'b'⟩

def keyPlace? (text : Chars) : Option (Nat × Option Nat × Chars) := do
  let field := text.takeWhile Char.isDigit
  let n ← Text.digits? 10 field
  match text.drop field.length with
  | '.' :: rest =>
    let digits := rest.takeWhile Char.isDigit
    return (n, some (← Text.digits? 10 digits), rest.drop digits.length)
  | letters => return (n, none, letters)

def sortKey? (order : Lines.Order) (text : Chars) : Option Lines.SortKey := do
  match text.splitOn ',' with
  | [first] =>
    let (field, character, letters) ← keyPlace? first
    return ⟨field, character.getD 1, none, none, if letters.isEmpty then order else orderOf letters⟩
  | [first, last] =>
    let (field, character, letters) ← keyPlace? first
    let (lastField, lastCharacter, more) ← keyPlace? last
    let letters := letters ++ more
    return ⟨field, character.getD 1, some lastField, lastCharacter,
      if letters.isEmpty then order else orderOf letters⟩
  | _ => none

def sort (words : List Chars) : Execution Nat :=
  withOptions "sort" ⟨"bdfghinrsuVcCmz", "kto", [("numeric-sort", 'n'), ("reverse", 'r'), ("unique", 'u'),
      ("key", 'k'), ("field-separator", 't'), ("output", 'o'), ("ignore-case", 'f'), ("stable", 's')], true⟩ 2
      words fun options => do
    let order := orderOf (options.given.map Prod.fst)
    match (options.values 'k').mapM (sortKey? order) with
    | none =>
      complainAs "sort" "invalid number at field start".toList
      return 2
    | some keys =>
      let (found, succeeded) ← contentsOf "sort" options.operands
      if !succeeded then return 2
      let sorting : Lines.Sorting :=
        ⟨keys, (options.value? 't').bind List.head?, order, options.has 'u', options.has 's'⟩
      let lines := found.flatMap fun f => Lines.ofText f.2
      if options.has 'c' || options.has 'C' then return statusOf (sorting.isSorted lines)
      let text := Lines.toText (sorting.sort lines)
      match options.value? 'o' with
      | some path => return statusOf (← writeFile "sort" path false text)
      | none =>
        print text
        return 0

def skipStart (fields characters : Nat) (line : Chars) : Chars :=
  let skip (line : Chars) : Chars := (line.dropWhile isBlank).dropWhile fun c => !isBlank c
  ((List.range fields).foldl (fun line _ => skip line) line).drop characters

def uniq (words : List Chars) : Execution Nat :=
  withOptions "uniq" ⟨"cdui", "fsw", [("count", 'c'), ("repeated", 'd'), ("unique", 'u'), ("ignore-case", 'i')],
      true⟩ 1 words fun options => do
    let (text, succeeded) ← wholeInput "uniq" (options.operands.take 1)
    let size (c : Char) : Nat := ((options.value? c).bind (Text.digits? 10)).getD 0
    let key (line : Chars) : Chars :=
      let line := skipStart (size 'f') (size 's') line
      if options.has 'i' then line.map Char.toLower else line
    let runs := Lines.countRuns (fun a b => key a == key b) (Lines.ofText text)
    let kept := runs.filter fun run =>
      (!options.has 'd' || 1 < run.1) && (!options.has 'u' || run.1 == 1)
    let shown := kept.map fun run =>
      if options.has 'c' then Lines.padLeft 7 (ofNat run.1) ++ ' ' :: run.2 else run.2
    print (Lines.toText shown)
    return statusOf succeeded

def tr (words : List Chars) : Execution Nat :=
  withOptions "tr" ⟨"cCdst", "", [("delete", 'd'), ("squeeze-repeats", 's'), ("complement", 'c')], false⟩ 1 words
      fun options => do
    let t (source target : Chars) : Lines.Translation :=
      ⟨Lines.set source, Lines.set target, options.has 'c' || options.has 'C', options.has 'd', options.has 's'⟩
    let text := (← readAll 0).getD []
    match options.operands with
    | [source] =>
      if !(options.has 'd' || options.has 's') then
        complainAs "tr" ("missing operand after '".toList ++ source ++ ['\''])
        return 1
      print (Lines.translate (t source []) text)
      return 0
    | [source, target] =>
      print (Lines.translate (t source target) text)
      return 0
    | _ =>
      complainAs "tr" "missing operand".toList
      return 1

def cut (words : List Chars) : Execution Nat :=
  withOptions "cut" ⟨"sn", "dfcbO", [("delimiter", 'd'), ("fields", 'f'), ("characters", 'c'), ("bytes", 'b'),
      ("complement", 'C'), ("output-delimiter", 'O'), ("only-delimited", 's')], true⟩ 1
      (words.filter (· != "--complement".toList)) fun options => do
    let complement := words.contains "--complement".toList
    let ranges := ((options.value? 'f').orElse fun _ => (options.value? 'c').orElse fun _ => options.value? 'b')
    match ranges.bind Lines.placeRanges? with
    | none =>
      complainAs "cut" "you must specify a list of bytes, characters, or fields".toList
      return 1
    | some ranges =>
      let (text, succeeded) ← wholeInput "cut" options.operands
      let delimiter := (options.value? 'd').getD ['\t']
      let choice : Lines.FieldChoice :=
        ⟨ranges, complement, delimiter.head?.getD '\x00', (options.value? 'O').getD delimiter, options.has 's'⟩
      let lines := Lines.ofText text
      let shown := if options.has 'f' then lines.filterMap (Lines.cutFields choice)
        else lines.map (Lines.atPlaces complement ranges)
      print (Lines.toText shown)
      return statusOf succeeded

def rev (words : List Chars) : Execution Nat := do
  let (text, succeeded) ← wholeInput "rev" words
  print (['\n'].intercalate ((text.splitOn '\n').map List.reverse))
  return statusOf succeeded

def tac (words : List Chars) : Execution Nat := do
  let (found, succeeded) ← contentsOf "tac" words
  for f in found do print (Lines.whole f.2).reverse.flatten
  return statusOf succeeded

def nl (words : List Chars) : Execution Nat :=
  withOptions "nl" (.ofLetters "p" "bwsvn") 1 words fun options => do
    let (text, succeeded) ← wholeInput "nl" options.operands
    let all := options.value? 'b' == some ['a']
    let shown := (Lines.ofText text).foldl (fun (n, shown) line =>
      if line.isEmpty && !all then (n, (List.replicate 7 ' ' ++ line) :: shown)
      else (n + 1, (Lines.padLeft 6 (ofNat n) ++ '\t' :: line) :: shown)) (1, [])
    print (Lines.toText shown.2.reverse)
    return statusOf succeeded

def paste (words : List Chars) : Execution Nat :=
  withOptions "paste" ⟨"s", "d", [("serial", 's'), ("delimiters", 'd')], true⟩ 1 words fun options => do
    let (found, succeeded) ← contentsOf "paste" options.operands
    let delimiter := ((options.value? 'd').getD ['\t']).take 1
    let columns := found.map fun f => Lines.ofText f.2
    let rows :=
      if options.has 's' then columns
      else
        let count := columns.foldl (fun n column => max n column.length) 0
        (List.range count).map fun i => columns.map fun column => column[i]?.getD []
    print (Lines.toText (rows.map delimiter.intercalate))
    return statusOf succeeded

def foldLine (width : Nat) : Nat → Chars → List Chars
  | 0, line => [line]
  | n + 1, line =>
    if line.length ≤ width ∨ width = 0 then [line] else line.take width :: foldLine width n (line.drop width)

def fold (words : List Chars) : Execution Nat :=
  withOptions "fold" (.ofLetters "bs" "w") 1 words fun options => do
    let (text, succeeded) ← wholeInput "fold" options.operands
    let width := ((options.value? 'w').bind (Text.digits? 10)).getD 80
    let lines := (text.splitOn '\n').map fun line => ['\n'].intercalate (foldLine width line.length line)
    print (['\n'].intercalate lines)
    return statusOf succeeded

structure SearchReport where
  lines : List Chars
  count : Nat

def searchContent (options : Options) (settings : Search.Settings) (regexes : List Regex) (title : Chars)
    (text : Chars) : SearchReport :=
  let selected := (Lines.ofText text).zipIdx.filter fun line => Search.selects settings regexes line.1
  let limit := ((options.value? 'm').bind (Text.digits? 10)).getD selected.length
  let selected := selected.take limit
  let numbered (n : Nat) (shown : Chars) : Chars :=
    title ++ (if options.has 'n' then ofNat (n + 1) ++ [':'] else []) ++ shown
  let lines := selected.flatMap fun line =>
    if options.has 'o' then
      (if settings.inverted then [] else (Search.parts settings regexes line.1).map (numbered line.2))
    else [numbered line.2 line.1]
  ⟨lines, selected.length⟩

def searchedPaths (options : Options) (operands : List Chars) : Execution (List Chars) := do
  if options.has 'r' || options.has 'R' then
    let found ← (if operands.isEmpty then [['.']] else operands).mapM (pathsBelow deepest)
    let files ← files
    return found.flatten.filter fun path => files.isFile (toPath path) || !files.exists? (toPath path)
  else return operands

def grep (spelling : Search.Spelling) (words : List Chars) : Execution Nat :=
  withOptions "grep" ⟨"EFGPvicnqosxwlLhHrRaI", "emABC", [("ignore-case", 'i'), ("invert-match", 'v'),
      ("count", 'c'), ("line-number", 'n'), ("quiet", 'q'), ("only-matching", 'o'), ("extended-regexp", 'E'),
      ("fixed-strings", 'F'), ("word-regexp", 'w'), ("line-regexp", 'x'), ("regexp", 'e'), ("no-messages", 's'),
      ("files-with-matches", 'l'), ("recursive", 'r'), ("max-count", 'm')], true⟩ 2 words fun options => do
    let patterns := options.values 'e'
    let (patterns, operands) := match patterns, options.operands with
      | [], pattern :: operands => ([pattern], operands)
      | patterns, operands => (patterns, operands)
    if patterns.isEmpty then
      complain "Usage: grep [OPTION]... PATTERNS [FILE]...".toList
      return 2
    let spelling := match options.last? "EFGP" with
      | some 'F' => .plain
      | some 'E' | some 'P' => .extended
      | some _ => .basic
      | none => spelling
    let settings : Search.Settings :=
      ⟨spelling, options.has 'i', options.has 'x', options.has 'w', options.has 'v'⟩
    match (patterns.flatMap fun p => p.splitOn '\n').mapM (Search.regex? settings) with
    | none =>
      complainAs "grep" "Invalid regular expression".toList
      return 2
    | some regexes =>
      let paths ← searchedPaths options operands
      let titled := (1 < paths.length || options.has 'H' || options.has 'r' || options.has 'R') &&
        !options.has 'h'
      let results ← (if operands.isEmpty ∧ paths.isEmpty then [['-']] else paths).mapM fun path => do
        match ← contentOf path with
        | .error fault =>
          unless options.has 's' do complainAs "grep" (path ++ ": ".toList ++ reason fault)
          return none
        | .ok text =>
          let name := if path = ['-'] then "(standard input)".toList else path
          let title := if titled then name ++ [':'] else []
          let report := searchContent options settings regexes title text
          unless options.has 'q' do
            let shown :=
              if options.has 'l' then (if 0 < report.count then [name] else [])
              else if options.has 'L' then (if report.count = 0 then [name] else [])
              else if options.has 'c' then [title ++ ofNat report.count]
              else report.lines
            print (Lines.toText shown)
          return some (decide (0 < report.count))
      let isFound := results.any (· == some true)
      if options.has 'q' && isFound then return 0
      if results.any Option.isNone then return 2
      return statusOf isFound

def sed (words : List Chars) : Execution Nat :=
  withOptions "sed" ⟨"nErsuzi", "ef", [("quiet", 'n'), ("silent", 'n'), ("regexp-extended", 'E'),
      ("expression", 'e'), ("in-place", 'i')], true⟩ 1 words fun options => do
    let (script, operands) := match options.values 'e', options.operands with
      | [], script :: operands => (script, operands)
      | scripts, operands => (['\n'].intercalate scripts, operands)
    let dialect := if options.has 'E' || options.has 'r' then .extended else .basic
    match StreamEdit.read? dialect script with
    | none =>
      complainAs "sed" "-e expression #1: unknown command".toList
      return 1
    | some steps =>
      let program : StreamEdit.Program := ⟨steps, options.has 'n'⟩
      let (found, succeeded) ← contentsOf "sed" operands
      if options.has 'i' then
        for f in found do
          let _ ← writeFile "sed" f.1 false (StreamEdit.run program f.2).1
        return if succeeded then 0 else 2
      let (text, status) := StreamEdit.run program (found.flatMap Prod.snd)
      print text
      return if succeeded then status else 2

def baseNames (words : List Chars) : Execution Nat :=
  withOptions "basename" (.first "az" "s") 1 words fun options => do
    let cutEnd (ending name : Chars) : Chars :=
      if ending.isSuffixOf name && ending.length < name.length then name.take (name.length - ending.length)
      else name
    match options.operands with
    | [] =>
      complainAs "basename" "missing operand".toList
      return 1
    | operands =>
      if options.has 'a' || options.has 's' then
        let ending := (options.value? 's').getD []
        for path in operands do printLine (cutEnd ending (baseName path))
        return 0
      match operands with
      | [path] =>
        printLine (baseName path)
        return 0
      | [path, ending] =>
        printLine (cutEnd ending (baseName path))
        return 0
      | _ =>
        complainAs "basename" "extra operand".toList
        return 1

def directoryNames (words : List Chars) : Execution Nat :=
  withOptions "dirname" (.first "z" "") 1 words fun options => do
    if options.operands.isEmpty then
      complainAs "dirname" "missing operand".toList
      return 1
    for path in options.operands do printLine (directoryName path)
    return 0

def isNegativeNumber (word : Chars) : Bool :=
  match word with
  | '-' :: c :: _ => c.isDigit || c == '.'
  | _ => false

def seq (words : List Chars) : Execution Nat := do
  let start := words.takeWhile fun word => !isNegativeNumber word
  let numbers := words.drop start.length
  withOptions "seq" ⟨"w", "sf", [("separator", 's'), ("equal-width", 'w'), ("format", 'f')], false⟩ 1 start
    fun options => do
      let row (first step last : Chars) : Execution Nat := do
        match Numbers.rowTexts? (options.has 'w') first step last with
        | none =>
          complainAs "seq" "invalid floating point argument".toList
          return 1
        | some texts =>
          let separator := (options.value? 's').getD ['\n']
          unless texts.isEmpty do printLine (separator.intercalate texts)
          return 0
      match options.operands ++ numbers with
      | [last] => row ['1'] ['1'] last
      | [first, last] => row first ['1'] last
      | [first, step, last] => row first step last
      | _ =>
        complainAs "seq" "missing operand".toList
        return 1

def expr (words : List Chars) : Execution Nat := do
  match Numbers.calculate words with
  | .ok value =>
    printLine value
    return if Numbers.isNull value then 1 else 0
  | .error fault =>
    complainAs "expr" <| match fault with
      | .grammar => "syntax error".toList
      | .notNumber => "non-integer argument".toList
      | .divisionByZero => "division by zero".toList
    return 2

def printEnvironment (words : List Chars) : Execution Nat := do
  let environment ← environment
  if words.isEmpty then
    for (name, value) in environment do printLine (name ++ '=' :: value)
    return 0
  let found := words.map fun name => environment.lookup name
  for value in found.filterMap id do printLine value
  return statusOf (found.all Option.isSome)

def isDuration (text : Chars) : Bool :=
  let number := match text.getLast? with
    | some c => if "smhd".toList.contains c then text.dropLast else text
    | none => text
  (Numbers.Fixed.read? number).any fun n => 0 ≤ n.value

def sleep (words : List Chars) : Execution Nat := do
  if words.isEmpty then
    complainAs "sleep" "missing operand".toList
    return 1
  match words.find? fun word => !isDuration word with
  | some word =>
    complainAs "sleep" ("invalid time interval '".toList ++ word ++ ['\''])
    return 1
  | none => return 0

def uname (words : List Chars) : Execution Nat := do
  match words with
  | [] | [['-', 's']] =>
    printLine "Linux".toList
    return 0
  | [['-', 'm']] =>
    printLine "x86_64".toList
    return 0
  | [['-', 'o']] =>
    printLine "GNU/Linux".toList
    return 0
  | _ => return 1

def whoami (_ : List Chars) : Execution Nat := do
  printLine "root".toList
  return 0

def identity (words : List Chars) : Execution Nat := do
  match words.map String.ofList with
  | ["-u"] | ["-g"] => printLine ['0']
  | ["-un"] | ["-u", "-n"] | ["-gn"] => printLine "root".toList
  | _ => printLine "uid=0(root) gid=0(root) groups=0(root)".toList
  return 0

structure FindQuery where
  names : List (Bool × List Pattern.Part)
  kind : Option Char
  least : Nat
  most : Nat
  deletes : Bool

def findQuery? : FindQuery → List Chars → Option FindQuery
  | query, [] => some query
  | query, [word] =>
    match String.ofList word with
    | "-print" => some query
    | "-delete" => some { query with deletes := true }
    | _ => none
  | query, word :: value :: words =>
    let pattern (ignoreCase : Bool) : Bool × List Pattern.Part :=
      (ignoreCase, Pattern.ofMarked false (value.map (⟨·, false⟩)))
    match String.ofList word with
    | "-print" => findQuery? query (value :: words)
    | "-delete" => findQuery? { query with deletes := true } (value :: words)
    | "-name" => findQuery? { query with names := pattern false :: query.names } words
    | "-iname" => findQuery? { query with names := pattern true :: query.names } words
    | "-type" => findQuery? { query with kind := value.head? } words
    | "-maxdepth" => (Text.digits? 10 value).bind fun n => findQuery? { query with most := n } words
    | "-mindepth" => (Text.digits? 10 value).bind fun n => findQuery? { query with least := n } words
    | _ => none
termination_by _ words => words.length

def find (words : List Chars) : Execution Nat := do
  let paths := words.takeWhile fun word => word.head? != some '-'
  match findQuery? ⟨[], none, 0, deepest, false⟩ (words.drop paths.length) with
  | none =>
    complainAs "find" "unknown predicate".toList
    return 1
  | some query =>
    let files ← files
    let done ← (if paths.isEmpty then [['.']] else paths).mapM fun root => do
      if !files.exists? (toPath root) then
        complainAs "find" (['\''] ++ root ++ "': No such file or directory".toList)
        return false
      for path in ← pathsBelow (min query.most deepest) root do
        let isDirectory := files.isDirectory (toPath path)
        let depth := (path.drop root.length).count '/'
        let fits := query.names.all fun (ignoreCase, parts) => Pattern.matchesAll ignoreCase parts (baseName path)
        let isKind := match query.kind with
          | some 'd' => isDirectory
          | some 'f' => files.isFile (toPath path)
          | some _ => false
          | none => true
        if fits && isKind && query.least ≤ depth then
          if query.deletes then
            let _ ← rm ["-rf".toList, path]
          else printLine path
      return true
    return statusOf (done.all id)

def echo (words : List Chars) : Execution Nat := do
  print (Format.echo words)
  return 0

def formatted (complain : Chars → Execution Unit) (format : Chars) (arguments : List Chars) :
    Execution (Chars × Nat) := do
  let printing := Format.print format arguments
  for text in printing.complaints do complain text
  return (printing.text, statusOf !printing.failed)

def printf (words : List Chars) : Execution Nat := do
  match words with
  | [] =>
    complainAs "printf" "missing operand".toList
    return 1
  | format :: arguments =>
    let (text, status) ← formatted (complainAs "printf") format arguments
    print text
    return status

def tools : List (String × (List Chars → Execution Nat)) :=
  [("basename", baseNames), ("cat", cat), ("chmod", chmod), ("cp", cp), ("cut", cut),
    ("dirname", directoryNames), ("echo", echo), ("egrep", grep .extended), ("expr", expr),
    ("false", fun _ => return 1), ("fgrep", grep .plain), ("find", find), ("fold", fold), ("grep", grep .basic),
    ("head", head), ("id", identity), ("ls", ls), ("mkdir", mkdir), ("mv", mv), ("nl", nl),
    ("paste", paste), ("printenv", printEnvironment), ("printf", printf), ("realpath", realpath),
    ("rev", rev), ("rm", rm), ("rmdir", rmdir), ("sed", sed), ("seq", seq), ("sleep", sleep), ("sort", sort),
    ("sync", fun _ => return 0), ("tac", tac), ("tail", tail), ("tee", tee), ("touch", touch), ("tr", tr),
    ("true", fun _ => return 0), ("uname", uname), ("uniq", uniq), ("wc", wc), ("whoami", whoami)]

end WorkflowScript.Shell.Execution
