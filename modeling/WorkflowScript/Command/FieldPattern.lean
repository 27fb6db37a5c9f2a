import WorkflowScript.Text.Blank
import WorkflowScript.Text.Digits
import WorkflowScript.Text.Letter

namespace WorkflowScript.FieldPattern

inductive Flaw where
  | classEscape
  | classRange
  | classRangeEnd
  | classOpen
  | hexEnd
  | hexDigit
  | hexValue
  | escapeEnd
  | escapeUnknown
  | backreference
  | flagNegationDangling
  | flagNegationRepeated
  | flagRepeated
  | flagEnd
  | flagUnknown
  | groupOpen
  | groupNotOpen
  | lookAround
  | nameRepeated
  | nameEmpty
  | nameCharacter
  | nameEnd
  | nothingRepeated
  | countOpen
  | countEmpty
  | countTooBig
  | propertyName
  | propertyUnknown
  | wordEdgeEnd
  | wordEdgeOpen
  deriving DecidableEq, Repr

def Flaw.message : Flaw → String
  | .classEscape => "invalid escape sequence found in character class"
  | .classRange => "invalid character class range, the start must be <= the end"
  | .classRangeEnd => "invalid range boundary, must be a literal"
  | .classOpen => "unclosed character class"
  | .hexEnd => "incomplete escape sequence, reached end of pattern prematurely"
  | .hexDigit => "invalid hexadecimal digit"
  | .hexValue => "hexadecimal literal is not a Unicode scalar value"
  | .escapeEnd => "incomplete escape sequence, reached end of pattern prematurely"
  | .escapeUnknown => "unrecognized escape sequence"
  | .backreference => "backreferences are not supported"
  | .flagNegationDangling => "dangling flag negation operator"
  | .flagNegationRepeated => "flag negation operator repeated"
  | .flagRepeated => "duplicate flag"
  | .flagEnd => "expected flag but got end of regex"
  | .flagUnknown => "unrecognized flag"
  | .groupOpen => "unclosed group"
  | .groupNotOpen => "unopened group"
  | .lookAround => "look-around, including look-ahead and look-behind, is not supported"
  | .nameRepeated => "duplicate capture group name"
  | .nameEmpty => "empty capture group name"
  | .nameCharacter => "invalid capture group character"
  | .nameEnd => "unclosed capture group name"
  | .nothingRepeated => "repetition operator missing expression"
  | .countOpen => "unclosed counted repetition"
  | .countEmpty => "repetition quantifier expects a valid decimal"
  | .countTooBig => "decimal literal invalid"
  | .propertyName => "invalid Unicode character class"
  | .propertyUnknown => "Unicode property not found"
  | .wordEdgeEnd =>
    "found either the beginning of a special word boundary or a bounded repetition on a \\b with an " ++
      "opening brace, but no closing brace"
  | .wordEdgeOpen =>
    "special word boundary assertion is either unclosed or contains an invalid character"

structure Span where
  first : Nat
  last : Nat
  deriving DecidableEq, Repr

structure Placed where
  flaw : Flaw
  span : Span
  other : Option Span
  deriving DecidableEq, Repr

structure Group where
  span : Span
  ignoresBlanks : Bool
  knowsUnicode : Bool
  deriving DecidableEq, Repr

structure Reader where
  rest : List Char
  here : Nat
  groups : List Group
  classes : List Span
  names : List (List Char × Span)
  ignoresBlanks : Bool
  knowsUnicode : Bool
  repeatable : Bool
  hasWordEdge : Bool
  unknownProperty : Option Span

def Reader.start (pattern : List Char) : Reader := ⟨pattern, 0, [], [], [], false, true, false, false, none⟩

abbrev Reading (α : Type) := StateT Reader (Except Placed) α

namespace Reading

def fail {α : Type} (flaw : Flaw) (first last : Nat) : Reading α := throw ⟨flaw, ⟨first, last⟩, none⟩

def here : Reading Nat := return (← get).here

def failHere {α : Type} (flaw : Flaw) : Reading α := do
  let place ← here
  fail flaw place place

def failNext {α : Type} (flaw : Flaw) : Reading α := do
  let place ← here
  fail flaw place (place + 1)

def failFrom {α : Type} (flaw : Flaw) (first : Nat) : Reading α := do fail flaw first (← here)

def peek : Reading (Option Char) := return (← get).rest.head?

def advance (n : Nat) : Reading Unit :=
  modify fun r => { r with rest := r.rest.drop n, here := r.here + (r.rest.take n).length }

def blankLength (inComment : Bool) : List Char → Nat
  | [] => 0
  | c :: text =>
    if inComment then blankLength (c != '\n') text + 1
    else if c = '#' then blankLength true text + 1
    else if Text.isBlank c then blankLength false text + 1
    else 0

def skipBlanks : Reading Unit := do
  let r ← get
  if r.ignoresBlanks then advance (blankLength false r.rest)

def next : Reading Unit := do
  advance 1
  skipBlanks

def peekSecond : Reading (Option Char) := do
  let r ← get
  let text := r.rest.drop 1
  return (text.drop (if r.ignoresBlanks then blankLength false text else 0)).head?

def takes (word : String) : Reading Bool := do
  if word.toList.isPrefixOf (← get).rest then
    advance word.length
    return true
  else return false

def setRepeatable (repeatable : Bool) : Reading Unit := modify fun r => { r with repeatable := repeatable }

inductive Item where
  | literal (c : Char)
  | several
  | edge
  deriving DecidableEq, Repr

def hexValue (first last value : Nat) : Reading Item :=
  if value < 0xD800 ∨ 0xDFFF < value ∧ value ≤ 0x10FFFF then return .literal (Char.ofNat value)
  else fail .hexValue first last

def hexDigits : Nat → Nat → Reading Nat
  | 0, value => return value
  | n + 1, value => do
    match ← peek with
    | none => failHere .hexEnd
    | some c =>
      match Text.digit? 16 c with
      | none => failNext .hexDigit
      | some digit =>
        next
        hexDigits n (value * 16 + digit)

def bracedDigits (brace : Nat) : List Char → Reading Item
  | [] => failFrom .hexEnd brace
  | _ :: text => do
    match ← peek with
    | none => failFrom .hexEnd brace
    | some c =>
      if (Text.digit? 16 c).isNone then failNext .hexDigit
      else
        next
        bracedDigits brace text

def hexLength : Char → Nat
  | 'x' => 2
  | 'u' => 4
  | _ => 8

def openBrace : Char := '\x7b'

def hex (mark : Char) : Reading Item := do
  next
  let first ← here
  match ← peek with
  | none => failHere .hexEnd
  | some c =>
    if c = openBrace then
      next
      bracedDigits first (c :: (← get).rest)
    else
      let value ← hexDigits (hexLength mark) 0
      hexValue first (← here) value

def categories : List Char := "clmnpszCLMNPSZ".toList

def property (start : Nat) : Reading Item := do
  next
  match ← peek with
  | none => failHere .escapeEnd
  | some c =>
    if c = openBrace then
      modify fun r => { r with here := r.here + r.rest.length, rest := [] }
      failHere .escapeEnd
    else if c = '\\' then failNext .propertyName
    else
      next
      let last ← here
      unless categories.contains c do
        modify fun r => { r with unknownProperty := r.unknownProperty.or (some ⟨start, last⟩) }
      return .several

def isEscapable (c : Char) : Bool := c.toNat < 0x80 && !c.isAlphanum && c != '<' && c != '>'

def control? : Char → Option Char
  | 'a' => some '\x07'
  | 'f' => some '\x0c'
  | 't' => some '\t'
  | 'n' => some '\n'
  | 'r' => some '\r'
  | 'v' => some '\x0b'
  | _ => none

def isEdgeWord (c : Char) : Bool := c.isAlpha || c == '-'

def edgeWord (start : Nat) : Reading Unit := do
  let before ← get
  if before.rest.head? = some openBrace then
    next
    match ← peek with
    | none => failFrom .wordEdgeEnd start
    | some c =>
      if isEdgeWord c then
        let letters := (← get).rest.takeWhile isEdgeWord
        advance letters.length
        failFrom .wordEdgeOpen before.here
      else set before

def wordEdge : Reading Item := do
  modify fun r => { r with hasWordEdge := r.hasWordEdge || r.knowsUnicode }
  return .edge

def escape : Reading Item := do
  let start ← here
  advance 1
  match ← peek with
  | none => failFrom .escapeEnd start
  | some c =>
    if c.isDigit then fail .backreference start ((← here) + 1)
    else if c = 'x' ∨ c = 'u' ∨ c = 'U' then hex c
    else if c = 'p' ∨ c = 'P' then property start
    else
      advance 1
      if "dswDSW".toList.contains c then return .several
      else if isEscapable c then return .literal c
      else match control? c with
      | some control => return .literal control
      | none =>
        if c = 'A' ∨ c = 'z' then return .edge
        else if c = 'b' then
          edgeWord start
          wordEdge
        else if c = 'B' ∨ c = '<' ∨ c = '>' then wordEdge
        else failFrom .escapeUnknown start

def failOpenClass {α : Type} : Reading α := do
  match (← get).classes with
  | span :: _ => fail .classOpen span.first span.last
  | [] => failHere .classOpen

def leadingHyphens (start : Nat) : List Char → Reading Bool
  | [] => return false
  | _ :: text => do
    match ← peek with
    | some '-' =>
      next
      if (← peek).isNone then fail .classOpen start start
      else
        discard (leadingHyphens start text)
        return true
    | _ => return false

def openClass : Reading Unit := do
  let start ← here
  next
  if (← peek).isNone then failFrom .classOpen start
  if (← peek) = some '^' then
    next
    if (← peek).isNone then failFrom .classOpen start
  let hasHyphens ← leadingHyphens start (← get).rest
  if !hasHyphens ∧ (← peek) = some ']' then
    next
    if (← peek).isNone then failFrom .classOpen start
  let last ← here
  modify fun r => { r with classes := ⟨start, last⟩ :: r.classes }

def classNames : List String :=
  ["alnum", "alpha", "ascii", "blank", "cntrl", "digit", "graph", "lower", "print", "punct", "space",
    "upper", "word", "xdigit"]

def namedClass? : List Char → Option Nat
  | '[' :: ':' :: text =>
    let named := match text with
      | '^' :: named => named
      | named => named
    let word := named.takeWhile (· != ':')
    if classNames.contains (.ofList word) ∧ ":]".toList.isPrefixOf (named.drop word.length) = true then
      some (text.length - named.length + word.length + 4)
    else none
  | _ => none

def classItem : Reading (Item × Span) := do
  let first ← here
  match ← peek with
  | none => failOpenClass
  | some '\\' =>
    let item ← escape
    return (item, ⟨first, ← here⟩)
  | some c =>
    advance 1
    return (.literal c, ⟨first, first + 1⟩)

def literalOf (item : Item × Span) : Reading Char :=
  match item.1 with
  | .literal c => return c
  | _ => fail .classRangeEnd item.2.first item.2.last

def classRange : Reading Unit := do
  let lower ← classItem
  skipBlanks
  let after ← peekSecond
  if (← peek).isNone then failOpenClass
  else if (← peek) ≠ some '-' ∨ after = some ']' ∨ after = some '-' then
    if lower.1 = .edge then fail .classEscape lower.2.first lower.2.last
  else
    next
    if (← peek).isNone then failOpenClass
    let upper ← classItem
    let first ← literalOf lower
    let last ← literalOf upper
    if last < first then fail .classRange lower.2.first upper.2.last

def classFrom : Nat → Reading Unit
  | 0 => failOpenClass
  | n + 1 => do
    skipBlanks
    match (← get).rest with
    | [] => failOpenClass
    | '[' :: text =>
      match namedClass? ('[' :: text) with
      | some length => advance length
      | none => openClass
      classFrom n
    | ']' :: _ =>
      advance 1
      modify fun r => { r with classes := r.classes.drop 1 }
      unless (← get).classes.isEmpty do classFrom n
    | c :: d :: _ =>
      if c = d ∧ (c = '&' ∨ c = '-' ∨ c = '~') then advance 2 else classRange
      classFrom n
    | [_] =>
      classRange
      classFrom n

def bracketed : Reading Unit := do
  openClass
  classFrom ((← get).rest.length + 1)

def isNameChar (isFirst : Bool) (c : Char) : Bool :=
  c == '_' || (Text.isAlphanumeric c && !(isFirst && c.isDigit)) ||
    (!isFirst && (c == '.' || c == '[' || c == ']'))

def nameFrom (isFirst : Bool) : List Char → Reading (List Char)
  | [] => return []
  | c :: text =>
    if c = '>' then return []
    else if isNameChar isFirst c then do
      advance 1
      return c :: (← nameFrom false text)
    else failNext .nameCharacter

def groupName : Reading Unit := do
  let first ← here
  let name ← nameFrom true (← get).rest
  let last ← here
  if (← peek).isNone then failHere .nameEnd
  if name = [] then fail .nameEmpty first first
  match (← get).names.lookup name with
  | some other => throw ⟨.nameRepeated, ⟨first, last⟩, some other⟩
  | none =>
    modify fun r => { r with names := (name, ⟨first, last⟩) :: r.names }
    advance 1

def isFlag (c : Char) : Bool := "ismUuRx".toList.contains c

def flagsFrom (found : List (Char × Nat)) : List Char → Reading (List (Char × Nat))
  | [] => failHere .flagEnd
  | c :: text => do
    if c = ':' ∨ c = ')' then return found
    else
      let place ← here
      if c ≠ '-' ∧ isFlag c = false then failNext .flagUnknown
      match found.lookup c with
      | some other =>
        throw ⟨if c = '-' then .flagNegationRepeated else .flagRepeated, ⟨place, place + 1⟩,
          some ⟨other, other + 1⟩⟩
      | none =>
        advance 1
        flagsFrom (found ++ [(c, place)]) text

def setting (flags : List (Char × Nat)) (letter : Char) (before : Bool) : Bool :=
  let (on, off) := (flags.map Prod.fst).span (· != '-')
  if on.contains letter then true else if off.contains letter then false else before

def applyFlags (flags : List (Char × Nat)) : Reading Unit :=
  modify fun r => { r with
    ignoresBlanks := setting flags 'x' r.ignoresBlanks
    knowsUnicode := setting flags 'u' r.knowsUnicode }

def pushGroup (start : Nat) (before : Reader) : Reading Unit :=
  modify fun r => { r with
    groups := ⟨⟨start, start + 1⟩, before.ignoresBlanks, before.knowsUnicode⟩ :: r.groups
    repeatable := false }

def flagged (start inside : Nat) : Reading Unit := do
  let before ← get
  if before.rest = [] then fail .groupOpen start (start + 1)
  let flags ← flagsFrom [] before.rest
  if let some ('-', place) := flags.getLast? then fail .flagNegationDangling place (place + 1)
  if (← peek) = some ')' then
    if flags = [] then fail .nothingRepeated inside inside
    advance 1
    applyFlags flags
    setRepeatable false
  else
    advance 1
    applyFlags flags
    pushGroup start before

def openGroup : Reading Unit := do
  let start ← here
  next
  let looksAround ← ["?=", "?!", "?<=", "?<!"].anyM takes
  if looksAround then failFrom .lookAround start
  let inside ← here
  if ← (["?P<", "?<"].anyM takes) then
    groupName
    pushGroup start (← get)
  else if ← takes "?" then flagged start inside
  else pushGroup start (← get)

def closeGroup : Reading Unit := do
  match (← get).groups with
  | [] => failNext .groupNotOpen
  | group :: groups =>
    advance 1
    modify fun r => { r with
      groups := groups, repeatable := true
      ignoresBlanks := group.ignoresBlanks, knowsUnicode := group.knowsUnicode }

def needRepeatable : Reading Unit := do
  unless (← get).repeatable do failHere .nothingRepeated

def repeated : Reading Unit := do
  needRepeatable
  advance 1
  discard (takes "?")

def highestCount : Nat := Nat.pow 2 32

def counted : Reading Unit := do
  needRepeatable
  let start ← here
  next
  if (← peek).isNone then failFrom .countOpen start
  advance ((← get).rest.takeWhile Text.isBlank).length
  let first ← here
  let digits := (← get).rest.takeWhile Char.isDigit
  advance digits.length
  let last ← here
  advance ((← get).rest.takeWhile Text.isBlank).length
  if (← peek).isNone then failFrom .countOpen start
  match Text.digits? 10 digits with
  | none => fail .countEmpty first last
  | some count => if count < highestCount then failFrom .countOpen start else fail .countTooBig first last

def item (c : Char) : Reading Unit := do
  if c = '(' then openGroup
  else if c = ')' then closeGroup
  else if c = '|' then
    advance 1
    setRepeatable false
  else if c = '[' then
    bracketed
    setRepeatable true
  else if c = '?' ∨ c = '*' ∨ c = '+' then repeated
  else if c = openBrace then counted
  else
    if c = '\\' then discard escape else advance 1
    setRepeatable true

def finish : Reading Unit := do
  match (← get).groups with
  | group :: _ => fail .groupOpen group.span.first group.span.last
  | [] =>
    match (← get).unknownProperty with
    | some span => fail .propertyUnknown span.first span.last
    | none => return ()

def all : Nat → Reading Unit
  | 0 => return ()
  | n + 1 => do
    skipBlanks
    match ← peek with
    | none => finish
    | some c =>
      item c
      all n

end Reading

inductive Fault where
  | unreadable (pattern : String) (placed : Placed)
  | wordEdge
  deriving DecidableEq, Repr

def marksFrom (place : Nat) : List Span → List Char
  | [] => []
  | span :: spans =>
    let width := max 1 (span.last - span.first)
    List.replicate (span.first - place) ' ' ++ List.replicate width '^' ++
      marksFrom (max place span.first + width) spans

def Placed.marks (placed : Placed) : List Char :=
  let spans := placed.other.toList ++ [placed.span]
  marksFrom 0 (spans.mergeSort fun a b => a.first ≤ b.first)

def Placed.report (pattern : String) (placed : Placed) : String :=
  "regex parse error:\n    " ++ pattern ++ "\n    " ++ .ofList placed.marks ++ "\nerror: " ++
    placed.flaw.message

def Fault.messages : Fault → List String
  | .unreadable pattern placed => ["error building NFA", "error parsing regex", placed.report pattern]
  | .wordEdge =>
    ["unsupported regex feature for DFAs: cannot build DFAs for regexes with Unicode word boundaries; " ++
      "switch to ASCII word boundaries, or heuristically enable Unicode word boundaries or use a " ++
      "different regex engine"]

def check (pattern : String) : Except Fault Unit :=
  match (Reading.all (pattern.length + 1)).run (.start pattern.toList) with
  | .error placed => .error (.unreadable pattern placed)
  | .ok ((), reader) => if reader.hasWordEdge then .error .wordEdge else .ok ()

end WorkflowScript.FieldPattern
