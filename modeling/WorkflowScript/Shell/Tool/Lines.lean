import WorkflowScript.Shell.Pattern
import WorkflowScript.Text.Digits

namespace WorkflowScript.Shell.Lines

def ofText (text : Chars) : List Chars :=
  let lines := text.splitOn '\n'
  if lines.getLast? = some [] then lines.dropLast else lines

def toText (lines : List Chars) : Chars := lines.flatMap (· ++ ['\n'])

def whole (text : Chars) : List Chars :=
  match (text.splitOn '\n').reverse with
  | [] => []
  | last :: before =>
    let ended := before.reverse.map (· ++ ['\n'])
    if last.isEmpty then ended else ended ++ [last]

inductive Amount where
  | upTo (n : Nat)
  | allBut (n : Nat)
  deriving DecidableEq, Repr

def Amount.head {α : Type} : Amount → List α → List α
  | .upTo n, items => items.take n
  | .allBut n, items => items.take (items.length - n)

def Amount.tail {α : Type} : Amount → List α → List α
  | .upTo n, items => items.drop (items.length - n)
  | .allBut n, items => items.drop n

def amount? (mark : Char) (text : Chars) : Option Amount :=
  match text with
  | c :: digits =>
    if c = mark then (Text.digits? 10 digits).map fun n => .allBut (if mark = '+' then n - 1 else n)
    else if c = '-' ∨ c = '+' then (Text.digits? 10 digits).map .upTo
    else (Text.digits? 10 text).map .upTo
  | [] => none

structure Counts where
  lines : Nat
  words : Nat
  characters : Nat
  deriving DecidableEq, Repr

def isSpace (c : Char) : Bool := c == ' ' || ('\t' ≤ c && c ≤ '\r')

def countWords (inWord : Bool) : Chars → Nat
  | [] => 0
  | c :: text =>
    if isSpace c then countWords false text
    else countWords true text + if inWord then 0 else 1

def counts (text : Chars) : Counts := ⟨text.count '\n', countWords false text, text.length⟩

def Counts.add (a b : Counts) : Counts :=
  ⟨a.lines + b.lines, a.words + b.words, a.characters + b.characters⟩

def padLeft (width : Nat) (text : Chars) : Chars := List.replicate (width - text.length) ' ' ++ text

structure PlaceRange where
  first : Nat
  last : Option Nat
  deriving DecidableEq, Repr

def PlaceRange.contains (n : Nat) (range : PlaceRange) : Bool :=
  range.first ≤ n && range.last.all (n ≤ ·)

def placeRange? (text : Chars) : Option PlaceRange :=
  match text.splitOn '-' with
  | [n] => (Text.digits? 10 n).bind fun n => if n = 0 then none else some ⟨n, some n⟩
  | [[], n] => (Text.digits? 10 n).map fun n => ⟨1, some n⟩
  | [n, []] => (Text.digits? 10 n).map fun n => ⟨n, none⟩
  | [a, b] => do
    let a ← Text.digits? 10 a
    let b ← Text.digits? 10 b
    if a ≤ b then some ⟨a, some b⟩ else none
  | _ => none

def placeRanges? (text : Chars) : Option (List PlaceRange) := (text.splitOn ',').mapM placeRange?

def atPlaces {α : Type} (complement : Bool) (ranges : List PlaceRange) (items : List α) : List α :=
  (items.zipIdx.filter fun i => ranges.any (·.contains (i.2 + 1)) != complement).map Prod.fst

structure FieldChoice where
  ranges : List PlaceRange
  complement : Bool
  delimiter : Char
  shown : Chars
  needsDelimiter : Bool

def cutFields (choice : FieldChoice) (line : Chars) : Option Chars :=
  match line.splitOn choice.delimiter with
  | [_] => if choice.needsDelimiter then none else some line
  | fields => some (choice.shown.intercalate (atPlaces choice.complement choice.ranges fields))

structure Order where
  numeric : Bool
  ignoresCase : Bool
  backwards : Bool
  skipsBlanks : Bool
  deriving DecidableEq, Repr

def Order.plain : Order := ⟨false, false, false, false⟩

structure SortKey where
  field : Nat
  character : Nat
  lastField : Option Nat
  lastCharacter : Option Nat
  order : Order
  deriving DecidableEq, Repr

def decimal (text : Chars) : Int × Nat :=
  let text := text.dropWhile isBlank
  let (negative, text) := match text with
    | '-' :: rest => (true, rest)
    | rest => (false, rest)
  let whole := text.takeWhile Char.isDigit
  let part := match text.drop whole.length with
    | '.' :: rest => rest.takeWhile Char.isDigit
    | _ => []
  let value := (Text.digits? 10 (whole ++ part)).getD 0
  (if negative then -(value : Int) else value, part.length)

def compareDecimals (a b : Int × Nat) : Ordering :=
  compare (a.1 * Int.pow 10 b.2) (b.1 * Int.pow 10 a.2)

def compareTexts : Chars → Chars → Ordering
  | [], [] => .eq
  | [], _ :: _ => .lt
  | _ :: _, [] => .gt
  | a :: as, b :: bs => if a = b then compareTexts as bs else compare a.toNat b.toNat

def Order.compare (order : Order) (a b : Chars) : Ordering :=
  let trim (text : Chars) : Chars := if order.skipsBlanks then text.dropWhile isBlank else text
  let fold (text : Chars) : Chars := if order.ignoresCase then text.map Char.toUpper else text
  let found :=
    if order.numeric then compareDecimals (decimal a) (decimal b)
    else compareTexts (fold (trim a)) (fold (trim b))
  if order.backwards then found.swap else found

def sortFields (separator : Option Char) : Nat → Chars → List Chars
  | 0, _ => []
  | n + 1, line =>
    match separator with
    | some c => line.splitOn c
    | none =>
      if line.isEmpty then []
      else
        let blanks := line.takeWhile isBlank
        let word := (line.drop blanks.length).takeWhile fun c => !isBlank c
        (blanks ++ word) :: sortFields none n (line.drop (blanks.length + word.length))

def keyText (separator : Option Char) (key : SortKey) (line : Chars) : Chars :=
  let fields := sortFields separator (line.length + 1) line
  let join (fields : List Chars) : Chars :=
    match separator with
    | some c => [c].intercalate fields
    | none => fields.flatten
  let trim (text : Chars) : Chars := if key.order.skipsBlanks then text.dropWhile isBlank else text
  let last := key.lastField.getD fields.length
  let lastText := match key.lastCharacter, fields[last - 1]? with
    | some n, some text => [text.take n]
    | none, some text => [text]
    | _, none => []
  let inner := (fields.drop key.field).take (last - 1 - key.field)
  if last < key.field then []
  else if last = key.field then
    (trim (lastText.flatten)).drop (key.character - 1)
  else
    match fields[key.field - 1]? with
    | some first => join ((trim first).drop (key.character - 1) :: inner ++ lastText)
    | none => []

structure Sorting where
  keys : List SortKey
  separator : Option Char
  order : Order
  unique : Bool
  stable : Bool

namespace Sorting

def compareKeys (sorting : Sorting) (a b : Chars) : Ordering :=
  match sorting.keys with
  | [] => sorting.order.compare a b
  | keys =>
    keys.foldl (fun found key =>
      found.then (key.order.compare (keyText sorting.separator key a) (keyText sorting.separator key b))) .eq

def compareLines (sorting : Sorting) (a b : Chars) : Ordering :=
  let last := if sorting.unique || sorting.stable then .eq else compareTexts a b
  (sorting.compareKeys a b).then (if sorting.order.backwards then last.swap else last)

def keepFirst (sorting : Sorting) : List Chars → List Chars
  | [] => []
  | [line] => [line]
  | a :: b :: lines =>
    if sorting.compareKeys a b == .eq then keepFirst sorting (a :: lines)
    else a :: keepFirst sorting (b :: lines)
termination_by lines => lines.length

def sort (sorting : Sorting) (lines : List Chars) : List Chars :=
  let sorted := lines.mergeSort fun a b => sorting.compareLines a b != .gt
  if sorting.unique then sorting.keepFirst sorted else sorted

def isSorted (sorting : Sorting) : List Chars → Bool
  | a :: b :: lines =>
    let order := sorting.compareLines a b
    (if sorting.unique then order == .lt else order != .gt) && isSorted sorting (b :: lines)
  | _ => true

end Sorting

def countRuns (same : Chars → Chars → Bool) : List Chars → List (Nat × Chars)
  | [] => []
  | line :: lines =>
    match countRuns same lines with
    | [] => [(1, line)]
    | (n, next) :: runs => if same line next then (n + 1, line) :: runs else (1, line) :: (n, next) :: runs

def kindNames : List String :=
  ["alpha", "digit", "alnum", "upper", "lower", "space", "blank", "punct", "print", "graph", "cntrl", "xdigit"]

def allChars : Chars := (List.range 256).map Char.ofNat

def setEscape (c : Char) : Char :=
  match c with
  | 'n' => '\n'
  | 't' => '\t'
  | 'r' => '\r'
  | 'a' => '\x07'
  | 'b' => '\x08'
  | 'f' => '\x0c'
  | 'v' => '\x0b'
  | c => c

def setChar? : Chars → Option (Char × Chars)
  | [] => none
  | '\\' :: c :: text =>
    let digits := ((c :: text).take 3).takeWhile fun c => '0' ≤ c && c ≤ '7'
    match Text.digits? 8 digits with
    | some n => some (Char.ofNat (n % 256), (c :: text).drop digits.length)
    | none => some (setEscape c, text)
  | c :: text => some (c, text)

def setFrom : Nat → Chars → Chars
  | 0, _ => []
  | n + 1, text =>
    let kind := kindNames.find? fun name => ("[:" ++ name ++ ":]").toList.isPrefixOf text
    match kind with
    | some name => allChars.filter (Pattern.isOfKind name.toList) ++ setFrom n (text.drop (name.length + 4))
    | none =>
      match setChar? text with
      | none => []
      | some (first, '-' :: rest) =>
        match setChar? rest with
        | some (last, rest) =>
          (allChars.filter fun c => first ≤ c && c ≤ last) ++ setFrom n rest
        | none => first :: setFrom n ['-']
      | some (c, rest) => c :: setFrom n rest

def set (text : Chars) : Chars := setFrom (text.length + 1) text

structure Translation where
  source : Chars
  target : Chars
  complement : Bool
  deletes : Bool
  squeezes : Bool

def squeeze (accepts : Char → Bool) : Option Char → Chars → Chars
  | _, [] => []
  | before, c :: text =>
    if accepts c && before == some c then squeeze accepts before text
    else c :: squeeze accepts (some c) text

def translate (t : Translation) (text : Chars) : Chars :=
  let isIn (c : Char) : Bool := t.source.contains c != t.complement
  let first := if t.complement then allChars.filter fun c => !t.source.contains c else t.source
  let mapped (c : Char) : Char :=
    match first.reverse.findIdx? (· == c) with
    | some i =>
      let place := first.length - 1 - i
      (t.target[place]?).getD (t.target.getLast?.getD c)
    | none => c
  if t.deletes then
    let kept := text.filter fun c => !isIn c
    if t.squeezes then squeeze t.target.contains none kept else kept
  else if t.target.isEmpty then (if t.squeezes then squeeze isIn none text else text)
  else
    let changed := text.map fun c => if isIn c then mapped c else c
    if t.squeezes then squeeze t.target.contains none changed else changed

end WorkflowScript.Shell.Lines
