import WorkflowScript.Decimal.Shortest
import WorkflowScript.Text.Digits
import WorkflowScript.Text.Scan

namespace WorkflowScript.Document

open Text Decimal

inductive Number where
  | integer (value : Int)
  | float (value : Binary64)
  deriving DecidableEq, Repr

namespace Number

def layout : Layout := ⟨16, 4⟩

def text : Number → String
  | .integer value => toString value
  | .float value => .ofList (value.text layout)

def same : Number → Number → Bool
  | .integer a, .integer b => a == b
  | .float a, .float b => a.same b
  | _, _ => false

def isZeroPadded : List Char → Bool
  | '0' :: c :: digits => (c :: digits).all Char.isDigit
  | _ => false

def magnitude? (text : List Char) : Option Nat :=
  let based (mark : Char) (base : Nat) := (afterLiteral? ['0', mark] text).bind (digits? base)
  (based 'x' 16).or <| (based 'o' 8).or <| (based 'b' 2).or <|
    if isZeroPadded text then none else digits? 10 text

inductive Whole where
  | fits (value : Int)
  | tooWide
  | notWhole
  deriving DecidableEq, Repr

def unsigned? (text : List Char) : Option Nat :=
  magnitude? ((afterLiteral? ['+'] text).getD text)

def negative? (text : List Char) : Option Nat := (afterLiteral? ['-'] text).bind magnitude?

/-- Integers are kept in 64 bits, with or without a sign; up to 128 bits they are refused; beyond that
the text is no integer. -/
def readWhole (text : List Char) : Whole :=
  match unsigned? text with
  | some n =>
    if n < Nat.pow 2 64 then .fits n else if n < Nat.pow 2 128 then .tooWide else .notWhole
  | none =>
    match negative? text with
    | some n =>
      if n ≤ Nat.pow 2 63 then .fits (-n) else if n ≤ Nat.pow 2 127 then .tooWide else .notWhole
    | none => .notWhole

def digitRun (text : List Char) : List Char × List Char := text.span Char.isDigit

def exponent? : List Char → Option Int
  | [] => some 0
  | c :: text =>
    if c = 'e' ∨ c = 'E' then
      match text with
      | '-' :: digits => (digits? 10 digits).map fun n => -(n : Int)
      | '+' :: digits => (digits? 10 digits).map Int.ofNat
      | digits => (digits? 10 digits).map Int.ofNat
    else none

def decimal? (negative : Bool) (text : List Char) : Option Binary64 :=
  let (whole, rest) := digitRun text
  let (fraction, rest) := match rest with
    | '.' :: rest => digitRun rest
    | rest => ([], rest)
  let digits := whole ++ fraction
  (digits? 10 digits).bind fun value =>
    (exponent? rest).bind fun exponent =>
      Binary64.ofDecimal? negative value (exponent - fraction.length)

def isInfinityWord (text : List Char) : Bool :=
  text == ".inf".toList || text == ".Inf".toList || text == ".INF".toList

def isUndefinedWord (text : List Char) : Bool :=
  text == ".nan".toList || text == ".NaN".toList || text == ".NAN".toList

def float? (text : List Char) : Option Binary64 :=
  if isUndefinedWord text then some .undefined
  else
    let (negative, unsigned) := match text with
      | '-' :: t => (true, t)
      | '+' :: t => (false, t)
      | t => (false, t)
    if isInfinityWord unsigned then some (.infinite negative) else decimal? negative unsigned

def ofText? (text : String) : Option Number :=
  match readWhole text.toList with
  | .fits value => some (.integer value)
  | .tooWide => none
  | .notWhole => (float? text.toList).map .float

end Number

end WorkflowScript.Document
