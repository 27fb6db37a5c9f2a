import WorkflowScript.Decimal.Binary64
import WorkflowScript.Shell.Word
import WorkflowScript.Text.Digits

namespace WorkflowScript.Shell

inductive Real where
  | finite (negative : Bool) (numerator denominator : Nat)
  | infinite (negative : Bool)
  | undefined (negative : Bool)
  deriving DecidableEq, Repr

namespace Real

open WorkflowScript.Decimal.Binary64 (roundDiv)

def significantBits : Nat := 64

def nearest (numerator denominator : Nat) : Nat × Nat :=
  if numerator = 0 then (0, 1)
  else
    let surplus : Int := (numerator.log2 : Int) - (denominator.log2 : Int) - significantBits
    let scale (surplus : Int) : Nat :=
      if 0 ≤ surplus then roundDiv numerator (denominator * Nat.pow 2 surplus.toNat)
      else roundDiv (numerator * Nat.pow 2 (-surplus).toNat) denominator
    let surplus := if Nat.pow 2 significantBits ≤ scale surplus then surplus + 1 else surplus
    if 0 ≤ surplus then (scale surplus * Nat.pow 2 surplus.toNat, 1)
    else (scale surplus, Nat.pow 2 (-surplus).toNat)

def decimalRange : Int := 4932

def ofDecimal (negative : Bool) (digits : Nat) (exponent : Int) : Real :=
  let size : Int := (Nat.toDigits 10 digits).length + exponent
  if digits = 0 ∨ size < -decimalRange then .finite negative 0 1
  else if decimalRange < size then .infinite negative
  else
    let (numerator, denominator) :=
      if 0 ≤ exponent then nearest (digits * Nat.pow 10 exponent.toNat) 1
      else nearest digits (Nat.pow 10 (-exponent).toNat)
    .finite negative numerator denominator

def negate : Real → Real
  | .finite negative n d => .finite (!negative) n d
  | .infinite negative => .infinite (!negative)
  | .undefined negative => .undefined (!negative)

def takeWord? (word : String) (text : Chars) : Option Chars :=
  if (text.take word.length).map Char.toLower = word.toList then some (text.drop word.length) else none

def exponent? (text : Chars) : Option (Int × Chars) :=
  match text with
  | c :: text =>
    if c = 'e' ∨ c = 'E' then
      let (negative, digits) := match text with
        | '-' :: rest => (true, rest)
        | '+' :: rest => (false, rest)
        | rest => (false, rest)
      let number := digits.takeWhile Char.isDigit
      (Text.digits? 10 number).map fun n =>
        ((if negative then -(n : Int) else n), digits.drop number.length)
    else none
  | [] => none

def unsigned (text : Chars) : Real × Chars :=
  let whole := text.takeWhile Char.isDigit
  let rest := text.drop whole.length
  let part := match rest with
    | '.' :: rest => rest.takeWhile Char.isDigit
    | _ => []
  let after := if part.isEmpty ∧ whole.isEmpty then text
    else match rest with
      | '.' :: rest => rest.drop part.length
      | rest => rest
  if whole.isEmpty ∧ part.isEmpty then
    match takeWord? "infinity" text, takeWord? "inf" text, takeWord? "nan" text with
    | some rest, _, _ => (.infinite false, rest)
    | none, some rest, _ => (.infinite false, rest)
    | none, none, some rest => (.undefined false, rest)
    | none, none, none => (.finite false 0 1, text)
  else
    let digits := (Text.digits? 10 (whole ++ part)).getD 0
    let (exponent, after) := (exponent? after).getD (0, after)
    (ofDecimal false digits (exponent - part.length), after)

def read (text : Chars) : Real × Chars :=
  match text with
  | '-' :: rest => (negate (unsigned rest).1, (unsigned rest).2)
  | '+' :: rest => unsigned rest
  | text => unsigned text

def pointed (n places : Nat) (keepsPoint : Bool) : Chars :=
  let digits := Nat.toDigits 10 n
  let digits := List.replicate (places + 1 - digits.length) '0' ++ digits
  let whole := digits.take (digits.length - places)
  if places = 0 then whole ++ (if keepsPoint then ['.'] else [])
  else whole ++ '.' :: digits.drop whole.length

def fixed (numerator denominator places : Nat) (keepsPoint : Bool) : Chars :=
  pointed (roundDiv (numerator * Nat.pow 10 places) denominator) places keepsPoint

def scientificParts (numerator denominator places : Nat) : Int × Nat :=
  if numerator = 0 then (0, 0)
  else
    let scaled (exponent : Int) (divide : Nat → Nat → Nat) : Nat :=
      let shift := (places : Int) - exponent
      if 0 ≤ shift then divide (numerator * Nat.pow 10 shift.toNat) denominator
      else divide numerator (denominator * Nat.pow 10 (-shift).toNat)
    let guess : Int :=
      ((Nat.toDigits 10 numerator).length : Int) - ((Nat.toDigits 10 denominator).length : Int)
    let exponent := if scaled guess (· / ·) < Nat.pow 10 places then guess - 1 else guess
    let digits := scaled exponent roundDiv
    if digits = Nat.pow 10 (places + 1) then (exponent + 1, Nat.pow 10 places) else (exponent, digits)

def exponentText (mark : Char) (exponent : Int) : Chars :=
  let digits := Nat.toDigits 10 exponent.natAbs
  mark :: (if exponent < 0 then '-' else '+') :: (if digits.length < 2 then '0' :: digits else digits)

def scientific (mark : Char) (numerator denominator places : Nat) (keepsPoint : Bool) : Chars :=
  let (exponent, digits) := scientificParts numerator denominator places
  pointed digits places keepsPoint ++ exponentText mark exponent

def withoutZeros (text : Chars) : Chars :=
  if text.contains '.' then
    let kept := (text.reverse.dropWhile (· == '0')).reverse
    if kept.getLast? = some '.' then kept.dropLast else kept
  else text

def general (mark : Char) (numerator denominator precision : Nat) (keepsZeros : Bool) : Chars :=
  let precision := max precision 1
  let (exponent, digits) := scientificParts numerator denominator (precision - 1)
  let tidy (text : Chars) : Chars := if keepsZeros then text else withoutZeros text
  if -4 ≤ exponent ∧ exponent < precision then
    tidy (fixed numerator denominator ((precision : Int) - 1 - exponent).toNat keepsZeros)
  else tidy (pointed digits (precision - 1) keepsZeros) ++ exponentText mark exponent

end Real

end WorkflowScript.Shell
