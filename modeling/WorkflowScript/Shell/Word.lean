namespace WorkflowScript.Shell

abbrev Chars := List Char

inductive ReplaceScope where
  | first
  | all
  | start
  | stop
  deriving DecidableEq, Repr

mutual

inductive Part where
  | char (c : Char)
  | quoted (c : Char)
  | quotes
  | expansion (expansion : Expansion) (isQuoted : Bool)

inductive Expansion where
  | parameter (name : Chars) (subscript : Option (List Part)) (operation : Operation)
  | command (text : Chars)
  | arithmetic (expression : List Part)
  | channel (reading : Bool) (text : Chars)
  | malformed (text : Chars)

inductive Operation where
  | value
  | bare
  | length
  | indirect
  | names
  | orElse (emptyToo : Bool) (word : List Part)
  | assign (emptyToo : Bool) (word : List Part)
  | require (emptyToo : Bool) (word : List Part)
  | alternative (emptyToo : Bool) (word : List Part)
  | removeStart (longest : Bool) (pattern : List Part)
  | removeEnd (longest : Bool) (pattern : List Part)
  | replace (scope : ReplaceScope) (pattern replacement : List Part)
  | slice (offset : List Part) (length : Option (List Part))
  | changeCase (toUpper : Bool) (everywhere : Bool) (pattern : List Part)
  | transform (c : Char)

end

abbrev Word := List Part

instance : Inhabited Part := ⟨.quotes⟩

namespace Word

def ofText (text : Chars) : Word := .quotes :: text.map .quoted

def plainChar? : Part → Option Char
  | .char c => some c
  | _ => none

def plain? (word : Word) : Option Chars := word.mapM plainChar?

def literalPart? : Part → Option Chars
  | .char c => some [c]
  | .quoted c => some [c]
  | .quotes => some []
  | .expansion _ _ => none

def literal? (word : Word) : Option Chars := (word.mapM literalPart?).map List.flatten

def isQuotedPart : Part → Bool
  | .quoted _ => true
  | .quotes => true
  | _ => false

def isQuoted (word : Word) : Bool := word.any isQuotedPart

def spanPlain (kind : Char → Bool) : Word → Chars × Word
  | .char c :: word =>
    if kind c then
      let (text, rest) := spanPlain kind word
      (c :: text, rest)
    else ([], .char c :: word)
  | word => ([], word)

def bracketed? (depth : Nat) : Word → Option (Word × Word)
  | [] => none
  | .char ']' :: word =>
    match depth with
    | 0 => some ([], word)
    | depth + 1 => (bracketed? depth word).map fun r => (.char ']' :: r.1, r.2)
  | .char '[' :: word => (bracketed? (depth + 1) word).map fun r => (.char '[' :: r.1, r.2)
  | part :: word => (bracketed? depth word).map fun r => (part :: r.1, r.2)

end Word

def isNameStart (c : Char) : Bool := c.isAlpha || c == '_'

def isNameChar (c : Char) : Bool := c.isAlphanum || c == '_'

def isName : Chars → Bool
  | [] => false
  | c :: text => isNameStart c && text.all isNameChar

def isBlank (c : Char) : Bool := c == ' ' || c == '\t'

def isMeta (c : Char) : Bool :=
  isBlank c || c == '\n' || c == ';' || c == '&' || c == '|' || c == '(' || c == ')' || c == '<' || c == '>'

def backtick : Char := '\x60'

def openBrace : Char := '\x7b'

def closeBrace : Char := '\x7d'

end WorkflowScript.Shell
