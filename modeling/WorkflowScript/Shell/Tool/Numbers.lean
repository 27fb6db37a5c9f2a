import WorkflowScript.Shell.Regex
import WorkflowScript.Shell.Tool.Lines

namespace WorkflowScript.Shell.Numbers

def ofInt (n : Int) : Chars := if n < 0 then '-' :: Nat.toDigits 10 n.natAbs else Nat.toDigits 10 n.natAbs

def int? (text : Chars) : Option Int :=
  match text with
  | '-' :: digits => (Text.digits? 10 digits).map fun n => -(n : Int)
  | digits => (Text.digits? 10 digits).map Int.ofNat

structure Fixed where
  value : Int
  places : Nat
  deriving DecidableEq, Repr

namespace Fixed

def read? (text : Chars) : Option Fixed :=
  let (negative, text) := match text with
    | '-' :: rest => (true, rest)
    | '+' :: rest => (false, rest)
    | rest => (false, rest)
  let whole := text.takeWhile Char.isDigit
  let part? := match text.drop whole.length with
    | [] => some []
    | '.' :: part => if part.all Char.isDigit then some part else none
    | _ => none
  part?.bind fun part =>
    (Text.digits? 10 (whole ++ part)).map fun n => ⟨if negative then -(n : Int) else n, part.length⟩

def scaled (places : Nat) (n : Fixed) : Int := n.value * Int.pow 10 (places - n.places)

def shown (places : Nat) (value : Int) : Chars :=
  let digits := Nat.toDigits 10 value.natAbs
  let digits := List.replicate (places + 1 - digits.length) '0' ++ digits
  let whole := digits.take (digits.length - places)
  (if value < 0 then ['-'] else []) ++ whole ++
    if places = 0 then [] else '.' :: digits.drop whole.length

end Fixed

def row (first step last : Int) : List Int :=
  if step = 0 then []
  else
    let count := (last - first) / step + 1
    if count ≤ 0 then [] else (List.range count.toNat).map fun (i : Nat) => first + (i : Int) * step

def padZeros (width : Nat) (text : Chars) : Chars :=
  match text with
  | '-' :: digits => '-' :: List.replicate (width - text.length) '0' ++ digits
  | digits => List.replicate (width - text.length) '0' ++ digits

def rowTexts? (sameWidth : Bool) (first step last : Chars) : Option (List Chars) := do
  let first ← Fixed.read? first
  let step ← Fixed.read? step
  let last ← Fixed.read? last
  let places := max first.places step.places
  let all := max places last.places
  let shift := Int.pow 10 (all - places)
  let numbers := row (first.scaled all) (step.scaled all) (last.scaled all)
  let texts := numbers.map fun n => Fixed.shown places (n / shift)
  let ends := [Fixed.shown places (first.scaled places), Fixed.shown places (last.scaled all / shift)]
  let width := (texts ++ ends).foldl (fun n text => max n text.length) 0
  return if sameWidth then texts.map (padZeros width) else texts

inductive Fault where
  | grammar
  | notNumber
  | divisionByZero
  deriving DecidableEq, Repr

abbrev Calculated := Except Fault (Chars × List Chars)

def number (text : Chars) : Except Fault Int :=
  match int? text with
  | some n => .ok n
  | none => .error .notNumber

def isNull (text : Chars) : Bool := text.isEmpty || int? text == some 0

def levels : List (List String) :=
  [["|"], ["&"], ["<", "<=", "=", "==", "!=", ">=", ">"], ["+", "-"], ["*", "/", "%"], [":"]]

def compareWith (operator : String) (order : Ordering) : Bool :=
  match operator with
  | "<" => order == .lt
  | "<=" => order != .gt
  | "=" | "==" => order == .eq
  | "!=" => order != .eq
  | ">=" => order != .lt
  | _ => order == .gt

def truth (b : Bool) : Chars := if b then ['1'] else ['0']

def matched (text pattern : Chars) : Except Fault Chars :=
  match Regex.parse? .basic pattern with
  | none => .error .grammar
  | some regex =>
    let hasGroup := "\\(".toList.isPrefixOf pattern || (pattern.zip (pattern.drop 1)).contains ('\\', '(')
    match Regex.matchAt? false regex 0 ⟨none, text, true⟩ with
    | none => .ok (if hasGroup then [] else ['0'])
    | some found => .ok (if hasGroup then Regex.capture found 1 else Nat.toDigits 10 found.whole.length)

def apply (operator : String) (a b : Chars) : Except Fault Chars := do
  match operator with
  | "|" => return if !isNull a then a else if !isNull b then b else ['0']
  | "&" => return if isNull a || isNull b then ['0'] else a
  | ":" => matched a b
  | "+" => return ofInt ((← number a) + (← number b))
  | "-" => return ofInt ((← number a) - (← number b))
  | "*" => return ofInt ((← number a) * (← number b))
  | "/" | "%" =>
    let a ← number a
    let b ← number b
    if b = 0 then throw .divisionByZero
    return ofInt (if operator = "/" then a.tdiv b else a.tmod b)
  | operator =>
    match int? a, int? b with
    | some a, some b => return truth (compareWith operator (compare a b))
    | _, _ => return truth (compareWith operator (Lines.compareTexts a b))

mutual

def levelFrom : Nat → List (List String) → List Chars → Calculated
  | 0, _, _ => .error .grammar
  | n + 1, [], words => primary n words
  | n + 1, operators :: more, words => do
    let (left, rest) ← levelFrom n more words
    moreFrom n operators more left rest
termination_by structural n => n

def moreFrom : Nat → List String → List (List String) → Chars → List Chars → Calculated
  | 0, _, _, _, _ => .error .grammar
  | n + 1, operators, more, left, words => do
    match words with
    | [] => return (left, [])
    | operator :: rest =>
      if operators.contains (.ofList operator) then
        let (right, rest) ← levelFrom n more rest
        moreFrom n operators more (← apply (.ofList operator) left right) rest
      else return (left, words)
termination_by structural n => n

def primary : Nat → List Chars → Calculated
  | 0, _ => .error .grammar
  | n + 1, words => do
    match words with
    | [] => throw .grammar
    | word :: rest =>
      match String.ofList word, rest with
      | "(", rest =>
        let (value, rest) ← levelFrom n levels rest
        match rest with
        | [')'] :: rest => return (value, rest)
        | _ => throw .grammar
      | "+", word :: rest => return (word, rest)
      | "length", text :: rest => return (Nat.toDigits 10 text.length, rest)
      | "match", text :: pattern :: rest => return (← matched text pattern, rest)
      | "index", text :: chars :: rest =>
        let place := (text.findIdx? chars.contains).map (· + 1)
        return (Nat.toDigits 10 (place.getD 0), rest)
      | "substr", text :: start :: length :: rest =>
        match int? start, int? length with
        | some start, some length =>
          if start ≤ 0 ∨ length ≤ 0 then return ([], rest)
          return ((text.drop (start.toNat - 1)).take length.toNat, rest)
        | _, _ => return ([], rest)
      | _, rest => return (word, rest)
termination_by structural n => n

end

def calculate (words : List Chars) : Except Fault Chars := do
  let (value, rest) ← levelFrom (20 * words.length + 20) levels words
  if rest.isEmpty then return value else throw .grammar

end WorkflowScript.Shell.Numbers
