namespace WorkflowScript.Decimal

inductive Binary64 where
  | finite (negative : Bool) (mantissa : Nat) (exponent : Int)
  | infinite (negative : Bool)
  | undefined
  deriving DecidableEq, Repr

namespace Binary64

def hiddenBit : Nat := Nat.pow 2 52

def leastExponent : Int := -1074

def greatestExponent : Int := 971

def roundDiv (num den : Nat) : Nat :=
  let quotient := num / den
  let rest := 2 * (num % den)
  if rest > den || (rest == den && quotient % 2 == 1) then quotient + 1 else quotient

def scaled (divide : Nat → Nat → Nat) (num den : Nat) (exponent : Int) : Nat :=
  if exponent ≥ 0 then divide num (den * Nat.pow 2 exponent.toNat)
  else divide (num * Nat.pow 2 (-exponent).toNat) den

def nearest? (num den : Nat) : Option (Nat × Int) :=
  if num = 0 then some (0, leastExponent)
  else
    let guess : Int := (num.log2 : Int) - (den.log2 : Int) - 52
    let exponent := if scaled (· / ·) num den guess < hiddenBit then guess - 1 else guess
    let exponent := max exponent leastExponent
    let mantissa := scaled roundDiv num den exponent
    let (mantissa, exponent) :=
      if mantissa = 2 * hiddenBit then (hiddenBit, exponent + 1) else (mantissa, exponent)
    if exponent > greatestExponent then none else some (mantissa, exponent)

def decimalRange : Int := 400

def ofDecimal? (negative : Bool) (digits : Nat) (exponent : Int) : Option Binary64 :=
  let size : Int := (Nat.toDigits 10 digits).length + exponent
  if digits = 0 ∨ size < -decimalRange then some (.finite negative 0 leastExponent)
  else if size > decimalRange then none
  else
    let fraction :=
      if exponent ≥ 0 then (digits * Nat.pow 10 exponent.toNat, 1)
      else (digits, Nat.pow 10 (-exponent).toNat)
    (nearest? fraction.1 fraction.2).map fun r => .finite negative r.1 r.2

def same : Binary64 → Binary64 → Bool
  | .finite s m e, .finite t n f => (m == 0 && n == 0) || (s == t && m == n && e == f)
  | .infinite s, .infinite t => s == t
  | .undefined, .undefined => true
  | _, _ => false

end Binary64

end WorkflowScript.Decimal
