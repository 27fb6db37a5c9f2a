import WorkflowScript.Shell.Word
import WorkflowScript.Text.Digits

namespace WorkflowScript.Shell.Escape

inductive Style where
  | shown
  | format
  | argument
  | quoted
  deriving DecidableEq, Repr

structure Found where
  text : Chars
  width : Nat
  isLast : Bool
  deriving DecidableEq, Repr

def letter? : Char → Option Char
  | 'a' => some '\x07'
  | 'b' => some '\x08'
  | 'e' => some '\x1b'
  | 'E' => some '\x1b'
  | 'f' => some '\x0c'
  | 'n' => some '\n'
  | 'r' => some '\r'
  | 't' => some '\t'
  | 'v' => some '\x0b'
  | '\\' => some '\\'
  | _ => none

def isOctal (c : Char) : Bool := '0' ≤ c && c ≤ '7'

def isHex (c : Char) : Bool := (Text.digit? 16 c).isSome

def value (base : Nat) (digits : Chars) : Nat := (Text.digits? base digits).getD 0

def byte (n : Nat) : Char := Char.ofNat (n % 256)

def hexDigits (width n : Nat) : Chars :=
  let digits := (Nat.toDigits 16 n).map Char.toUpper
  List.replicate (width - digits.length) '0' ++ digits

def codePoint (n : Nat) : Chars :=
  if n < 0x80 then [Char.ofNat n]
  else if n < 0x10000 then "\\u".toList ++ hexDigits 4 n
  else "\\U".toList ++ hexDigits 8 n

def octalReach (style : Style) (c : Char) : Nat :=
  if c = '0' ∧ (style = .shown ∨ style = .argument) then 3 else 2

def control (c : Char) : Char := Char.ofNat (c.toUpper.toNat % 128 ^^^ 64)

def find? (style : Style) : Chars → Option Found
  | [] => none
  | c :: text =>
    match letter? c with
    | some d => some ⟨[d], 1, false⟩
    | none =>
      if isOctal c ∧ (c = '0' ∨ style ≠ .shown) then
        let digits := (text.take (octalReach style c)).takeWhile isOctal
        some ⟨[byte (value 8 (c :: digits))], 1 + digits.length, false⟩
      else if c = 'x' then
        let digits := (text.take 2).takeWhile isHex
        if digits.isEmpty then none else some ⟨[byte (value 16 digits)], 1 + digits.length, false⟩
      else if c = 'u' ∨ c = 'U' then
        let digits := (text.take (if c = 'u' then 4 else 8)).takeWhile isHex
        if digits.isEmpty then none else some ⟨codePoint (value 16 digits), 1 + digits.length, false⟩
      else if c = 'c' then
        match style, text with
        | .shown, _ => some ⟨[], 1, true⟩
        | .argument, _ => some ⟨[], 1, true⟩
        | .quoted, d :: _ => some ⟨[control d], 2, false⟩
        | _, _ => none
      else if c = '\'' ∨ c = '"' ∨ c = '?' then
        if style = .format ∨ style = .quoted then some ⟨[c], 1, false⟩ else none
      else none

def replaceFrom (style : Style) : Nat → Chars → Chars × Bool
  | _, [] => ([], true)
  | skipped + 1, _ :: text => replaceFrom style skipped text
  | 0, c :: text =>
    let found := if c = '\\' then find? style text else none
    match found with
    | none =>
      let (rest, goesOn) := replaceFrom style 0 text
      (c :: rest, goesOn)
    | some found =>
      if found.isLast then (found.text, false)
      else
        let (rest, goesOn) := replaceFrom style found.width text
        (found.text ++ rest, goesOn)

def replace (style : Style) (text : Chars) : Chars × Bool := replaceFrom style 0 text

end WorkflowScript.Shell.Escape
