import WorkflowScript.Shell.Regex
import WorkflowScript.Shell.Tool.Lines

namespace WorkflowScript.Shell.StreamEdit

inductive Address where
  | line (n : Nat)
  | every (first step : Nat)
  | last
  | found (regex : Regex) (ignoreCase : Bool)
  | after (n : Nat)

structure Addresses where
  first : Option Address
  second : Option Address
  negated : Bool

inductive New where
  | char (c : Char)
  | capture (n : Nat)
  | capitals (toUpper : Option Bool) (onlyNext : Bool)
  deriving DecidableEq, Repr

structure Substitution where
  regex : Regex
  new : List New
  ignoreCase : Bool
  everywhere : Bool
  number : Nat
  prints : Bool

inductive Action where
  | substitute (substitution : Substitution)
  | exchangeChars (source target : Chars)
  | insert (text : Chars)
  | append (text : Chars)
  | change (text : Chars)
  | quit (prints : Bool) (status : Nat)
  | letter (c : Char)
  | jump (ifChanged : Option Bool) (label : Chars)
  | label (label : Chars)
  | opening (stop : Nat)
  | closing

structure Step where
  addresses : Addresses
  action : Action

def delimited? (delimiter : Char) : Chars → Option (Chars × Chars)
  | [] => none
  | '\\' :: c :: text =>
    (delimited? delimiter text).map fun r =>
      (if c = delimiter then c :: r.1 else if c = '\n' then '\n' :: r.1 else '\\' :: c :: r.1, r.2)
  | c :: text =>
    if c = delimiter then some ([], text) else (delimited? delimiter text).map fun r => (c :: r.1, r.2)

def isSpace (c : Char) : Bool := c == ' ' || c == '\t'

def skipSpaces (text : Chars) : Chars := text.dropWhile isSpace

def skipSeparators (text : Chars) : Chars := text.dropWhile fun c => isSpace c || c == ';' || c == '\n'

def number (text : Chars) : Option Nat × Chars :=
  let digits := text.takeWhile Char.isDigit
  (Text.digits? 10 digits, text.drop digits.length)

def address? (dialect : Regex.Dialect) (text : Chars) : Option (Option Address × Chars) :=
  match text with
  | '$' :: rest => some (some .last, rest)
  | '/' :: rest => pattern '/' rest
  | '\\' :: c :: rest => pattern c rest
  | '+' :: rest =>
    match number rest with
    | (some n, rest) => some (some (.after n), rest)
    | (none, _) => none
  | text =>
    match number text with
    | (some n, '~' :: rest) =>
      let (step, rest) := number rest
      some (some (.every n (step.getD 0)), rest)
    | (some n, rest) => some (some (.line n), rest)
    | (none, rest) => some (none, rest)
where
  pattern (delimiter : Char) (text : Chars) : Option (Option Address × Chars) := do
    let (pattern, rest) ← delimited? delimiter text
    let regex ← Regex.parse? dialect pattern
    match rest with
    | 'I' :: rest => return (some (.found regex true), rest)
    | rest => return (some (.found regex false), rest)

def addresses? (dialect : Regex.Dialect) (text : Chars) : Option (Addresses × Chars) := do
  let (first, rest) ← address? dialect text
  let (second, rest) ← match first, skipSpaces rest with
    | some _, ',' :: more => address? dialect (skipSpaces more)
    | _, rest => some (none, rest)
  match skipSpaces rest with
  | '!' :: rest => return (⟨first, second, true⟩, skipSpaces (rest.dropWhile (· == '!')))
  | rest => return (⟨first, second, false⟩, rest)

def newFrom : Chars → List New
  | [] => []
  | '&' :: text => .capture 0 :: newFrom text
  | '\\' :: c :: text =>
    let piece : New :=
      if c.isDigit then .capture (c.toNat - 0x30)
      else match c with
        | 'n' => .char '\n'
        | 't' => .char '\t'
        | 'U' => .capitals (some true) false
        | 'L' => .capitals (some false) false
        | 'u' => .capitals (some true) true
        | 'l' => .capitals (some false) true
        | 'E' => .capitals none false
        | c => .char c
    piece :: newFrom text
  | c :: text => .char c :: newFrom text

def substitutionFlags? : Substitution → Nat → Chars → Option (Substitution × Chars)
  | s, 0, text => some (s, text)
  | s, n + 1, text =>
    match text with
    | 'g' :: rest => substitutionFlags? { s with everywhere := true } n rest
    | 'p' :: rest => substitutionFlags? { s with prints := true } n rest
    | 'i' :: rest | 'I' :: rest => substitutionFlags? { s with ignoreCase := true } n rest
    | text =>
      match number text with
      | (some k, rest) => if k = 0 then none else substitutionFlags? { s with number := k } n rest
      | (none, rest) => some (s, rest)

def substitution? (dialect : Regex.Dialect) (text : Chars) : Option (Action × Chars) := do
  let delimiter ← text.head?
  let (pattern, rest) ← delimited? delimiter (text.drop 1)
  let (new, rest) ← delimited? delimiter rest
  let regex ← Regex.parse? dialect pattern
  let (s, rest) ← substitutionFlags? ⟨regex, newFrom new, false, false, 1, false⟩ (rest.length + 1) rest
  return (.substitute s, rest)

def unescape : Chars → Chars
  | [] => []
  | '\\' :: 'n' :: text => '\n' :: unescape text
  | '\\' :: 't' :: text => '\t' :: unescape text
  | '\\' :: c :: text => c :: unescape text
  | c :: text => c :: unescape text

def exchange? (text : Chars) : Option (Action × Chars) := do
  let delimiter ← text.head?
  let (source, rest) ← delimited? delimiter (text.drop 1)
  let (target, rest) ← delimited? delimiter rest
  let source := unescape source
  let target := unescape target
  if source.length = target.length then some (.exchangeChars source target, rest) else none

def broughtText (text : Chars) : Chars × Chars :=
  let text := skipSpaces text
  let text := match text with
    | '\\' :: rest =>
      match skipSpaces rest with
      | '\n' :: more => more
      | _ => skipSpaces rest
    | text => text
  lineFrom text
where
  lineFrom : Chars → Chars × Chars
    | [] => ([], [])
    | '\\' :: c :: text =>
      let (line, rest) := lineFrom text
      (c :: line, rest)
    | '\n' :: text => ([], text)
    | c :: text =>
      let (line, rest) := lineFrom text
      (c :: line, rest)

def labelText (text : Chars) : Chars × Chars :=
  let text := skipSpaces text
  let label := text.takeWhile fun c => c != ';' && c != '\n' && c != closeBrace
  ((label.reverse.dropWhile isSpace).reverse, text.drop label.length)

def action? (dialect : Regex.Dialect) (c : Char) (text : Chars) : Option (Action × Chars) :=
  if c = openBrace then some (.opening 0, text)
  else if c = closeBrace then some (.closing, text)
  else match c with
    | 's' => substitution? dialect text
    | 'y' => exchange? text
    | 'i' => let (t, rest) := broughtText text; some (.insert t, rest)
    | 'a' => let (t, rest) := broughtText text; some (.append t, rest)
    | 'c' => let (t, rest) := broughtText text; some (.change t, rest)
    | 'q' | 'Q' =>
      let (status, rest) := number (skipSpaces text)
      some (.quit (c == 'q') (status.getD 0), rest)
    | 'b' => let (label, rest) := labelText text; some (.jump none label, rest)
    | 't' => let (label, rest) := labelText text; some (.jump (some true) label, rest)
    | 'T' => let (label, rest) := labelText text; some (.jump (some false) label, rest)
    | ':' => let (label, rest) := labelText text; some (.label label, rest)
    | c => if "dDpPnNgGhHxz=".toList.contains c then some (.letter c, text) else none

def endsCommand (text : Chars) : Bool :=
  match skipSpaces text with
  | [] => true
  | c :: _ => c == ';' || c == '\n' || c == '#' || c == closeBrace

def stepsFrom? (dialect : Regex.Dialect) : Nat → Chars → Option (List Step)
  | 0, _ => none
  | n + 1, text =>
    match skipSeparators text with
    | [] => some []
    | '#' :: rest => stepsFrom? dialect n (rest.dropWhile (· != '\n'))
    | text => do
      let (addresses, rest) ← addresses? dialect text
      let c ← rest.head?
      let (action, rest) ← action? dialect c (rest.drop 1)
      let endsItself := match action with
        | .opening _ | .closing | .insert _ | .append _ | .change _ => true
        | _ => endsCommand rest
      if endsItself then return ⟨addresses, action⟩ :: (← stepsFrom? dialect n rest) else none

def groupSize? (depth : Nat) : List Step → Option Nat
  | [] => none
  | step :: steps =>
    match step.action, depth with
    | .closing, 0 => some 0
    | .closing, depth + 1 => (groupSize? depth steps).map (· + 1)
    | .opening _, depth => (groupSize? (depth + 1) steps).map (· + 1)
    | _, depth => (groupSize? depth steps).map (· + 1)

def linked? : Nat → List Step → Option (List Step)
  | _, [] => some []
  | n, step :: steps =>
    match step.action with
    | .opening _ => do
      let size ← groupSize? 0 steps
      return { step with action := .opening (n + 1 + size) } :: (← linked? (n + 1) steps)
    | _ => (linked? (n + 1) steps).map (step :: ·)

def read? (dialect : Regex.Dialect) (script : Chars) : Option (List Step) := do
  linked? 0 (← stepsFrom? dialect (script.length + 1) script)

structure State where
  lines : List Chars
  line : Nat
  space : Chars
  hold : Chars
  later : List Chars
  output : Chars
  changed : Bool
  ranges : List (Nat × Option Nat)
  status : Nat

inductive Flow where
  | next
  | goTo (n : Nat)
  | endCycle (prints : Bool)
  | restart
  | quit (prints : Bool)

structure Program where
  steps : List Step
  quiet : Bool

def change (text : List New) (found : Regex.Match) : Chars :=
  go none none text
where
  apply (once always : Option Bool) (text : Chars) : Chars :=
    let set (mode : Option Bool) (c : Char) : Char :=
      match mode with
      | some true => c.toUpper
      | some false => c.toLower
      | none => c
    match text with
    | [] => []
    | c :: text => set (once.or always) c :: text.map (set always)
  go (once always : Option Bool) : List New → Chars
    | [] => []
    | .char c :: new => apply once always [c] ++ go none always new
    | .capture n :: new =>
      let text := Regex.capture found n
      apply once always text ++ go (if text.isEmpty then once else none) always new
    | .capitals mode true :: new => go mode always new
    | .capitals mode false :: new => go none mode new

def afterMatch (s : Substitution) (next : Option Char → Chars → Chars × Bool) (before : Option Char)
    (text : Chars) : Chars × Bool :=
  match Regex.searchFrom s.ignoreCase s.regex before 1 text with
  | none => (text, false)
  | some found =>
    match found.whole, found.start, text with
    | [], 1, c :: rest =>
      let (more, changed) := next (some c) rest
      (c :: more, changed)
    | _, _, text => next before text

def substituteFrom (s : Substitution) : Nat → Nat → Option Char → Bool → Chars → Chars × Bool
  | 0, _, _, _, text => (text, false)
  | n + 1, count, before, atStart, text =>
    let found := Regex.searchFrom s.ignoreCase s.regex before (if atStart then 0 else 1) text
    match found with
    | none => (text, false)
    | some found =>
      let start := if atStart then found.start else found.start - 1
      let skipped := text.take start
      let rest := text.drop (start + found.whole.length)
      let counts := count + 1
      let replaces := s.number ≤ counts
      let shown := if replaces then change s.new found else found.whole
      if replaces && !s.everywhere then (skipped ++ shown ++ rest, true)
      else
        match found.whole, rest with
        | [], [] => (skipped ++ shown, replaces)
        | [], c :: rest =>
          let (more, changed) := substituteFrom s n counts (some c) false rest
          (skipped ++ shown ++ c :: more, replaces || changed)
        | whole, rest =>
          if rest.isEmpty then (skipped ++ shown, replaces)
          else
            let (more, changed) :=
              afterMatch s (fun before text => substituteFrom s n counts before false text)
                whole.getLast? rest
            (skipped ++ shown ++ more, replaces || changed)

def isAt (state : State) : Address → Bool
  | .line n => state.line == n
  | .every first step =>
    if step = 0 then state.line == first else first ≤ state.line && (state.line - first) % step == 0
  | .last => state.lines.isEmpty
  | .found regex ignoreCase => (Regex.search? ignoreCase regex state.space).isSome
  | .after _ => false

def selects (number : Nat) (addresses : Addresses) (state : State) : Bool × State :=
  let setRange (range : Option (Option Nat)) (state : State) : State :=
    let others := state.ranges.filter (·.1 != number)
    { state with ranges := match range with
        | some stop => (number, stop) :: others
        | none => others }
  let (isIn, state) := match addresses.first, addresses.second with
    | none, _ => (true, state)
    | some first, none => (isAt state first, state)
    | some first, some second =>
      match state.ranges.lookup number with
      | some (some stop) => (true, if stop ≤ state.line then setRange none state else state)
      | some none => (true, if isAt state second then setRange none state else state)
      | none =>
        if isAt state first then
          match second with
          | .line n => (true, if n ≤ state.line then state else setRange (some (some n)) state)
          | .after n => (true, if n = 0 then state else setRange (some (some (state.line + n))) state)
          | .last => (true, if state.lines.isEmpty then state else setRange (some none) state)
          | _ => (true, setRange (some none) state)
        else (false, state)
  (isIn != addresses.negated, state)

def print (text : Chars) (state : State) : State := { state with output := state.output ++ text ++ ['\n'] }

def flush (state : State) : State := { state.later.foldl (fun s text => print text s) state with later := [] }

def nextLine? (state : State) : Option State :=
  match state.lines with
  | [] => none
  | line :: lines => some { state with lines := lines, line := state.line + 1, space := line }

def firstLine (text : Chars) : Chars := text.takeWhile (· != '\n')

def labelPlace? (label : Chars) (steps : List Step) : Option Nat :=
  steps.findIdx? fun step => match step.action with
    | .label name => name == label
    | _ => false

def runLetter (program : Program) (c : Char) (state : State) : Flow × State :=
  match c with
  | 'd' => (.endCycle false, state)
  | 'D' =>
    if state.space.contains '\n' then
      (.restart, { state with space := (state.space.dropWhile (· != '\n')).drop 1 })
    else (.endCycle false, state)
  | 'p' => (.next, print state.space state)
  | 'P' => (.next, print (firstLine state.space) state)
  | '=' => (.next, print (Nat.toDigits 10 state.line) state)
  | 'g' => (.next, { state with space := state.hold })
  | 'G' => (.next, { state with space := state.space ++ '\n' :: state.hold })
  | 'h' => (.next, { state with hold := state.space })
  | 'H' => (.next, { state with hold := state.hold ++ '\n' :: state.space })
  | 'x' => (.next, { state with space := state.hold, hold := state.space })
  | 'z' => (.next, { state with space := [] })
  | 'n' =>
    let printed := flush (if program.quiet then state else print state.space state)
    match nextLine? printed with
    | some state => (.next, state)
    | none => (.quit (program.quiet), state)
  | _ =>
    match nextLine? (flush state) with
    | some new => (.next, { new with space := state.space ++ '\n' :: new.space })
    | none => (.quit true, state)

def runAction (program : Program) (addresses : Addresses) (action : Action) (state : State) : Flow × State :=
  match action with
  | .substitute s =>
    let (text, changed) := substituteFrom s (state.space.length + 2) 0 none true state.space
    let state := { state with space := text, changed := state.changed || changed }
    (.next, if changed && s.prints then print text state else state)
  | .exchangeChars source target =>
    let mapped (c : Char) : Char := ((source.findIdx? (· == c)).bind fun i => target[i]?).getD c
    (.next, { state with space := state.space.map mapped })
  | .insert text => (.next, print text state)
  | .append text => (.next, { state with later := state.later ++ [text] })
  | .change text =>
    let isOver := addresses.second.isNone || addresses.negated || state.ranges.isEmpty
    (.endCycle false, if isOver then print text state else state)
  | .quit prints status => (.quit prints, { state with status := status })
  | .letter c => runLetter program c state
  | .jump ifChanged label =>
    let jumps := ifChanged.all (· == state.changed)
    let state := if ifChanged.isSome then { state with changed := false } else state
    if !jumps then (.next, state)
    else if label.isEmpty then (.endCycle true, state)
    else match labelPlace? label program.steps with
      | some n => (.goTo n, state)
      | none => (.endCycle true, state)
  | .label _ | .opening _ | .closing => (.next, state)

def runFrom (program : Program) : Nat → Nat → State → Flow × State
  | 0, _, state => (.quit false, state)
  | n + 1, number, state =>
    match program.steps[number]? with
    | none => (.endCycle true, state)
    | some step =>
      let (isFor, state) := selects number step.addresses state
      match isFor, step.action with
      | false, .opening stop => runFrom program n (stop + 1) state
      | false, _ => runFrom program n (number + 1) state
      | true, action =>
        match runAction program step.addresses action state with
        | (.next, state) => runFrom program n (number + 1) state
        | (.goTo place, state) => runFrom program n place state
        | found => found

def reach : Nat := 100000

def cyclesFrom (program : Program) : Nat → State → State
  | 0, state => state
  | n + 1, state =>
    let finish (prints : Bool) (state : State) : State :=
      flush (if prints && !program.quiet then print state.space state else state)
    match runFrom program reach 0 { state with changed := false } with
    | (.quit prints, state) => finish prints state
    | (.restart, state) => cyclesFrom program n (finish false state)
    | (.endCycle prints, state) =>
      match nextLine? (finish prints state) with
      | some state => cyclesFrom program n state
      | none => finish prints state
    | (_, state) => state

def run (program : Program) (text : Chars) : Chars × Nat :=
  let lines := Lines.ofText text
  match nextLine? ⟨lines, 0, [], [], [], [], false, [], 0⟩ with
  | none => ([], 0)
  | some state =>
    let state := cyclesFrom program (2 * text.length + 2) state
    let endsLine := text.getLast? = some '\n'
    (if endsLine ∨ !state.lines.isEmpty then state.output else state.output.dropLast, state.status)

end WorkflowScript.Shell.StreamEdit
