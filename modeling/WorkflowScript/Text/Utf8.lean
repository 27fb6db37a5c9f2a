namespace WorkflowScript.Text

def cutAtByte? : Nat → List Char → Option (List Char × List Char)
  | 0, text => some ([], text)
  | _ + 1, [] => none
  | n + 1, c :: text =>
    if c.utf8Size ≤ n + 1 then (cutAtByte? (n + 1 - c.utf8Size) text).map fun r => (c :: r.1, r.2)
    else none

end WorkflowScript.Text

namespace WorkflowScript.Text.Utf8

abbrev Bytes := List UInt8

def encode (text : List Char) : Bytes := text.flatMap String.utf8EncodeChar

/-- What a first byte says: how many bytes follow, the bits it gives, and the least and greatest byte that
may come next. -/
structure Lead where
  more : Nat
  bits : Nat
  low : Nat
  high : Nat
  deriving DecidableEq, Repr

def tailLow : Nat := 0x80

def tailHigh : Nat := 0xBF

def lead? (byte : Nat) : Option Lead :=
  if byte < 0x80 then some ⟨0, byte, tailLow, tailHigh⟩
  else if byte < 0xC2 then none
  else if byte < 0xE0 then some ⟨1, byte - 0xC0, tailLow, tailHigh⟩
  else if byte < 0xF0 then
    some ⟨2, byte - 0xE0, if byte = 0xE0 then 0xA0 else tailLow, if byte = 0xED then 0x9F else tailHigh⟩
  else if byte < 0xF5 then
    some ⟨3, byte - 0xF0, if byte = 0xF0 then 0x90 else tailLow, if byte = 0xF4 then 0x8F else tailHigh⟩
  else none

def follow (low high bits : Nat) : Nat → Bytes → Nat × Option Nat
  | 0, _ => (0, some bits)
  | _ + 1, [] => (0, none)
  | n + 1, byte :: bytes =>
    if low ≤ byte.toNat ∧ byte.toNat ≤ high then
      let (count, code) := follow tailLow tailHigh (bits * 64 + byte.toNat % 64) n bytes
      (count + 1, code)
    else (0, none)

def part (byte : UInt8) (bytes : Bytes) : Nat × Option Char :=
  match lead? byte.toNat with
  | none => (0, none)
  | some lead =>
    let (count, code) := follow lead.low lead.high lead.bits lead.more bytes
    (count, code.map Char.ofNat)

def partsFrom (found : List (Option Char)) : Nat → Bytes → List (Option Char)
  | _, [] => found.reverse
  | skipped + 1, _ :: bytes => partsFrom found skipped bytes
  | 0, byte :: bytes =>
    let (count, char) := part byte bytes
    partsFrom (char :: found) count bytes

def parts (bytes : Bytes) : List (Option Char) := partsFrom [] 0 bytes

def decode? (bytes : Bytes) : Option (List Char) := (parts bytes).mapM id

def replacement : Char := '\ufffd'

def decodeLossy (bytes : Bytes) : List Char := (parts bytes).map (·.getD replacement)

end WorkflowScript.Text.Utf8
