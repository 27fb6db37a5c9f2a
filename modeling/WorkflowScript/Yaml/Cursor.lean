import WorkflowScript.Text.Scan
import WorkflowScript.Yaml.Fault

namespace WorkflowScript.Yaml

def lineSeparator : Char := '\u2028'

def paragraphSeparator : Char := '\u2029'

def nextLine : Char := '\u0085'

def byteOrderMark : Char := '\ufeff'

def isBreak (c : Char) : Bool := c == '\n' || c == lineSeparator || c == paragraphSeparator

def isSpace (c : Char) : Bool := c == ' ' || c == '\t'

def isGap (c : Char) : Bool := isSpace c || isBreak c

def isWordChar (c : Char) : Bool := c.isAlphanum || c == '_' || c == '-'

def isAllowed (c : Char) : Bool :=
  let n := c.toNat
  n == 9 || n == 0xA || n == 0xD || (0x20 ≤ n && n ≤ 0x7E) || n == 0x85 ||
    (0xA0 ≤ n && n ≤ 0xFFFD) || 0x10000 ≤ n

def withLineFeeds : List Char → List Char
  | [] => []
  | '\r' :: '\n' :: text => '\n' :: withLineFeeds text
  | c :: text => (if c = '\r' ∨ c = nextLine then '\n' else c) :: withLineFeeds text

def startsGap : List Char → Bool
  | [] => true
  | c :: _ => isGap c

def documentMark? : List Char → Option Char
  | a :: b :: c :: text => if (a == '-' || a == '.') && a == b && a == c && startsGap text then some a else none
  | _ => none

structure Cursor where
  rest : List Char
  offset : Nat
  line : Nat
  column : Nat
  deriving Repr

namespace Cursor

def start (text : List Char) : Cursor := ⟨text, 0, 0, 0⟩

def next (cursor : Cursor) : Cursor :=
  match cursor.rest with
  | [] => cursor
  | c :: rest =>
    if isBreak c then ⟨rest, cursor.offset + c.utf8Size, cursor.line + 1, 0⟩
    else ⟨rest, cursor.offset + c.utf8Size, cursor.line, cursor.column + 1⟩

def skip : Nat → Cursor → Cursor
  | 0, cursor => cursor
  | n + 1, cursor => skip n cursor.next

def span (p : Char → Bool) (cursor : Cursor) : List Char × Cursor :=
  let taken := cursor.rest.takeWhile p
  (taken, cursor.skip taken.length)

def skipWhile (p : Char → Bool) (cursor : Cursor) : Cursor := (cursor.span p).2

def atDocumentMark? (cursor : Cursor) : Option Char :=
  if cursor.column = 0 then documentMark? cursor.rest else none

def endLine (fault : Fault) (cursor : Cursor) : Except Fault Cursor :=
  let cursor := cursor.skipWhile isSpace
  let cursor := if cursor.rest.head? = some '#' then cursor.skipWhile (!isBreak ·) else cursor
  match cursor.rest with
  | [] => .ok cursor
  | c :: _ => if isBreak c then .ok cursor.next else .error fault

end Cursor

/-- Line breaks between two parts of a scalar fold: one becomes a space, of several the first is
dropped. Separators that are no line feeds are kept. -/
def foldBreaks : List Char → List Char
  | [] => []
  | c :: more =>
    if c = '\n' then (match more with
      | [] => [' ']
      | more => more)
    else c :: more

end WorkflowScript.Yaml
