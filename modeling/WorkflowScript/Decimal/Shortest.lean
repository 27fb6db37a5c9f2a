import WorkflowScript.Decimal.Binary64

namespace WorkflowScript.Decimal

namespace Binary64

/-- Twice-doubled bounds of the reals that round to `mantissa * 2 ^ exponent`, as multiples of
`2 ^ (exponent - 2)`. Below a power of two the next value is only half as far away. -/
def bounds (mantissa : Nat) (exponent : Int) : Nat × Nat :=
  let narrow := mantissa == hiddenBit && exponent > leastExponent
  (4 * mantissa - (if narrow then 1 else 2), 4 * mantissa + 2)

def overCommon (n : Nat) (twos : Int) (d : Nat) (tens : Int) : Nat × Nat :=
  (n * Nat.pow 2 twos.toNat * Nat.pow 10 (-tens).toNat,
    d * Nat.pow 10 tens.toNat * Nat.pow 2 (-twos).toNat)

def readsBack (mantissa : Nat) (exponent : Int) (digits : Nat) (tens : Int) : Bool :=
  let (low, high) := bounds mantissa exponent
  let (l, d) := overCommon low (exponent - 2) digits tens
  let (h, d') := overCommon high (exponent - 2) digits tens
  let even := mantissa % 2 == 0
  (l < d || (even && l == d)) && (d' < h || (even && d' == h))

def scaleFrom (mantissa : Nat) (exponent : Int) : Nat → Int → Int
  | 0, k => k
  | n + 1, k =>
    let (v, p) := overCommon mantissa exponent 1 k
    if v < p then k else scaleFrom mantissa exponent n (k + 1)

def scale (mantissa : Nat) (exponent : Int) : Int :=
  let log2 : Int := mantissa.log2 + exponent
  scaleFrom mantissa exponent 4 (log2 * 30103 / 100000 - 1)

def onGrid? (mantissa : Nat) (exponent : Int) (tens : Int) : Option Nat :=
  let (v, p) := overCommon mantissa exponent 1 tens
  let lower := v / p
  match readsBack mantissa exponent lower tens, readsBack mantissa exponent (lower + 1) tens with
  | false, false => none
  | true, false => some lower
  | false, true => some (lower + 1)
  | true, true =>
    let twice := 2 * (v % p)
    if twice < p || (twice == p && lower % 2 == 0) then some lower else some (lower + 1)

def stripZeros : Nat → Nat → Int → Nat × Int
  | 0, digits, tens => (digits, tens)
  | n + 1, digits, tens =>
    if digits % 10 = 0 then stripZeros n (digits / 10) (tens + 1) else (digits, tens)

def exact (mantissa : Nat) (exponent : Int) : Nat × Int :=
  if exponent ≥ 0 then (mantissa * Nat.pow 2 exponent.toNat, 0)
  else (mantissa * Nat.pow 5 (-exponent).toNat, exponent)

def firstGrid? (mantissa : Nat) (exponent : Int) : Nat → Int → Option (Nat × Int)
  | 0, _ => none
  | n + 1, tens =>
    match onGrid? mantissa exponent (tens - 1) with
    | some digits => some (digits, tens - 1)
    | none => firstGrid? mantissa exponent n (tens - 1)

def shortest (mantissa : Nat) (exponent : Int) : Nat × Int :=
  match firstGrid? mantissa exponent 17 (scale mantissa exponent) with
  | some (digits, tens) => stripZeros 20 digits tens
  | none => exact mantissa exponent

end Binary64

structure Layout where
  widest : Int
  deepest : Int

def zeros (n : Int) : List Char := List.replicate n.toNat '0'

def Layout.write (layout : Layout) (digits : Nat) (tens : Int) : List Char :=
  let ds := Nat.toDigits 10 digits
  let places := ds.length + tens
  if 0 ≤ tens ∧ places ≤ layout.widest then ds ++ zeros tens ++ ['.', '0']
  else if 0 < places ∧ places ≤ layout.widest then
    ds.take places.toNat ++ '.' :: ds.drop places.toNat
  else if -layout.deepest ≤ places ∧ places ≤ 0 then ['0', '.'] ++ zeros (-places) ++ ds
  else
    let fraction := match ds.drop 1 with
      | [] => []
      | rest => '.' :: rest
    ds.take 1 ++ fraction ++ 'e' :: (toString (places - 1)).toList

namespace Binary64

def text (layout : Layout) : Binary64 → List Char
  | .undefined => ".nan".toList
  | .infinite negative => (if negative then "-.inf" else ".inf").toList
  | .finite negative mantissa exponent =>
    let digits :=
      if mantissa = 0 then ['0', '.', '0']
      else
        let (digits, tens) := shortest mantissa exponent
        layout.write digits tens
    (if negative then ['-'] else []) ++ digits

end Binary64

end WorkflowScript.Decimal
