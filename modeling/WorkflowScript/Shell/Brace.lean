import WorkflowScript.Shell.Word
import WorkflowScript.Text.Digits

namespace WorkflowScript.Shell.Brace

def alternatives? (depth : Nat) (before : Word) : Word → Option (List Word × Word)
  | [] => none
  | .char c :: word =>
    if c = closeBrace then
      match depth with
      | 0 => some ([before], word)
      | depth + 1 => alternatives? depth (before ++ [.char c]) word
    else if c = ',' ∧ depth = 0 then (alternatives? 0 [] word).map fun r => (before :: r.1, r.2)
    else alternatives? (if c = openBrace then depth + 1 else depth) (before ++ [.char c]) word
  | part :: word => alternatives? depth (before ++ [part]) word

inductive Bound where
  | number (value : Int) (width : Nat) (padded : Bool)
  | letter (c : Char)
  deriving DecidableEq, Repr

def bound? (text : Chars) : Option Bound :=
  let digits := match text with
    | '-' :: digits => digits
    | '+' :: digits => digits
    | digits => digits
  match Text.digits? 10 digits, text with
  | some n, _ =>
    let value : Int := if text.head? = some '-' then -n else n
    some (.number value text.length (1 < digits.length && digits.head? == some '0'))
  | none, [c] => if c.isAlpha then some (.letter c) else none
  | none, _ => none

def rangeParts : Chars → List Chars
  | [] => [[]]
  | '.' :: '.' :: text => [] :: rangeParts text
  | c :: text =>
    match rangeParts text with
    | part :: parts => (c :: part) :: parts
    | [] => [[c]]

def padded (width : Nat) (value : Int) : Chars :=
  let digits := Nat.toDigits 10 value.natAbs
  if value < 0 then '-' :: List.replicate (width - 1 - digits.length) '0' ++ digits
  else List.replicate (width - digits.length) '0' ++ digits

def longestRange : Nat := 1000000

def steps (first last : Int) (step : Nat) : List Int :=
  let step := max step 1
  let count := (last - first).natAbs / step + 1
  (List.range (min count longestRange)).map fun i =>
    if first ≤ last then first + Int.ofNat (i * step) else first - Int.ofNat (i * step)

def range? (text : Chars) : Option (List Chars) :=
  let step? (text : Chars) : Option Nat :=
    match text with
    | '-' :: digits => Text.digits? 10 digits
    | '+' :: digits => Text.digits? 10 digits
    | digits => Text.digits? 10 digits
  let build (first last : Chars) (step : Nat) : Option (List Chars) :=
    match bound? first, bound? last with
    | some (.number a wa pa), some (.number b wb pb) =>
      let width := if pa || pb then max wa wb else 0
      some ((steps a b step).map (padded width))
    | some (.letter a), some (.letter b) =>
      some ((steps a.toNat b.toNat step).map fun n => [Char.ofNat n.toNat])
    | _, _ => none
  match rangeParts text with
  | [first, last] => build first last 1
  | [first, last, step] => (step? step).bind (build first last)
  | _ => none

def expandFrom : Nat → Word → List Word
  | 0, word => [word]
  | _ + 1, [] => [[]]
  | n + 1, .char c :: word =>
    if c = openBrace then
      let asItIs (_ : Unit) := (expandFrom n word).map (.char c :: ·)
      match alternatives? 0 [] word with
      | none => asItIs ()
      | some ([alternative], rest) =>
        match (alternative.mapM Word.plainChar?).bind range? with
        | some texts =>
          let ends := expandFrom n rest
          texts.flatMap fun text => ends.map fun more => text.map .char ++ more
        | none => asItIs ()
      | some (alternatives, rest) =>
        let ends := expandFrom n rest
        alternatives.flatMap fun alternative =>
          (expandFrom n alternative).flatMap fun start => ends.map fun more => start ++ more
    else (expandFrom n word).map (.char c :: ·)
  | n + 1, part :: word => (expandFrom n word).map (part :: ·)

def isBrace : Part → Bool
  | .char c => c == openBrace
  | _ => false

def joined : Word → Word
  | [] => []
  | part :: word =>
    let word := joined word
    match part, Word.spanPlain isNameChar word with
    | .expansion (.parameter name subscript .bare) false, (c :: text, rest) =>
      .expansion (.parameter (name ++ c :: text) subscript .bare) false :: rest
    | part, _ => part :: word

def expand (word : Word) : List Word :=
  if word.any isBrace then (expandFrom (2 * word.length + 2) word).map joined else [word]

end WorkflowScript.Shell.Brace
