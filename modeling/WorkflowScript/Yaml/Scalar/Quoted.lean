import WorkflowScript.Text.Digits
import WorkflowScript.Yaml.Cursor

namespace WorkflowScript.Yaml.Quoted

inductive Quote where
  | single
  | double
  deriving DecidableEq, Repr

def Quote.char : Quote → Char
  | .single => '\x27'
  | .double => '\x22'

def escaped? : Char → Option Char
  | '0' => some '\x00'
  | 'a' => some '\x07'
  | 'b' => some '\x08'
  | 't' => some '\t'
  | '\t' => some '\t'
  | 'n' => some '\n'
  | 'v' => some '\x0b'
  | 'f' => some '\x0c'
  | 'r' => some '\r'
  | 'e' => some '\x1b'
  | ' ' => some ' '
  | '\x22' => some '\x22'
  | '/' => some '/'
  | '\\' => some '\\'
  | 'N' => some '\u0085'
  | '_' => some '\u00a0'
  | 'L' => some '\u2028'
  | 'P' => some '\u2029'
  | _ => none

def codeLength? : Char → Option Nat
  | 'x' => some 2
  | 'u' => some 4
  | 'U' => some 8
  | _ => none

def isScalarValue (n : Nat) : Bool := n < 0xD800 || (0xDFFF < n && n ≤ 0x10FFFF)

def escape : List Char → Except Fault (Char × Nat)
  | [] => .error .escapeUnknown
  | c :: text =>
    match escaped? c, codeLength? c with
    | some e, _ => .ok (e, 1)
    | none, some length =>
      match Text.digits? 16 (text.take length) with
      | none => .error .escapeDigits
      | some n =>
        if text.length < length then .error .escapeDigits
        else if isScalarValue n then .ok (Char.ofNat n, 1 + length)
        else .error .escapeCharacter
    | none, none => .error .escapeUnknown

inductive Stop where
  | gap
  | closed
  | escapedBreak
  deriving DecidableEq, Repr

structure Run where
  chars : List Char
  stop : Stop
  cursor : Cursor

def Run.cons (c : Char) (run : Run) : Run := { run with chars := c :: run.chars }

def runFrom (quote : Quote) : Nat → Cursor → Except Fault Run
  | 0, _ => .error .stepsUsedUp
  | n + 1, cursor =>
    match cursor.rest with
    | [] => .ok ⟨[], .gap, cursor⟩
    | c :: text =>
      if isGap c then .ok ⟨[], .gap, cursor⟩
      else if c = quote.char then
        if quote = .single ∧ text.head? = some c then
          (runFrom quote n (cursor.skip 2)).map (Run.cons c)
        else .ok ⟨[], .closed, cursor.next⟩
      else if quote = .double ∧ c = '\\' then
        if text.head?.any isBreak then .ok ⟨[], .escapedBreak, cursor.skip 2⟩
        else do
          let (e, width) ← escape text
          (runFrom quote n (cursor.skip (1 + width))).map (Run.cons e)
      else (runFrom quote n cursor.next).map (Run.cons c)

def gapText (afterEscapedBreak : Bool) (gap : List Char) : List Char :=
  let breaks := gap.filter isBreak
  if afterEscapedBreak then breaks
  else match breaks with
    | [] => gap
    | breaks => foldBreaks breaks

def loop (quote : Quote) : Nat → Cursor → Except Fault (List Char × Cursor)
  | 0, _ => .error .stepsUsedUp
  | n + 1, cursor =>
    if (cursor.atDocumentMark?).isSome then .error .markInQuotes
    else if cursor.rest.isEmpty then .error .quotesOpen
    else do
      let run ← runFrom quote (n + 1) cursor
      match run.stop with
      | .closed => return (run.chars, run.cursor)
      | stop =>
        let (gap, cursor) := run.cursor.span isGap
        let (more, cursor) ← loop quote n cursor
        return (run.chars ++ gapText (stop == .escapedBreak) gap ++ more, cursor)

def read (quote : Quote) (cursor : Cursor) : Except Fault (List Char × Cursor) :=
  loop quote (cursor.rest.length + 1) cursor.next

end WorkflowScript.Yaml.Quoted
