import WorkflowScript.Shell.Pattern

namespace WorkflowScript.Shell

inductive Piece where
  | char (m : Marked)
  | value (c : Char)
  | present
  | absent
  | boundary
  | softBoundary
  deriving DecidableEq, Repr

namespace Piece

def quotedChars (text : Chars) : List Piece := text.map fun c => .char ⟨c, true⟩

def ofValue (isQuoted : Bool) (text : Chars) : List Piece :=
  if isQuoted then quotedChars text else text.map .value

def isFieldSpace (separators : Chars) (c : Char) : Bool :=
  separators.contains c && (c == ' ' || c == '\t' || c == '\n')

structure Splitting where
  fields : List (List Marked)
  field : Option (List Marked)
  isPresent : Bool
  afterSpace : Bool

namespace Splitting

def start : Splitting := ⟨[], none, false, false⟩

def add (m : Marked) (s : Splitting) : Splitting :=
  { s with field := some (m :: s.field.getD []), afterSpace := false }

def settle (s : Splitting) : Splitting :=
  if s.isPresent then { s with field := some (s.field.getD []), isPresent := false } else s

def close (s : Splitting) : Splitting :=
  let s := s.settle
  match s.field with
  | none => s
  | some field => { s with fields := field.reverse :: s.fields, field := none }

def take (separators : Chars) (s : Splitting) : Piece → Splitting
  | .char m => s.add m
  | .present => { s.settle with isPresent := true, afterSpace := false }
  | .absent => { s with isPresent := false }
  | .boundary => { (if s.field.isNone then { s with field := some [] } else s).close with field := some [] }
  | .softBoundary => s.close
  | .value c =>
    let s := s.settle
    if !separators.contains c then s.add ⟨c, false⟩
    else if isFieldSpace separators c then
      if s.field.isNone then s else { s.close with afterSpace := true }
    else if s.afterSpace then { s with afterSpace := false }
    else (if s.field.isNone then { s with field := some [] } else s).close

end Splitting

def fields (separators : Chars) (pieces : List Piece) : List (List Marked) :=
  (pieces.foldl (Splitting.take separators) Splitting.start).close.fields.reverse

def marked (separator : Chars) : List Piece → List Marked
  | [] => []
  | .char m :: pieces => m :: marked separator pieces
  | .value c :: pieces => ⟨c, false⟩ :: marked separator pieces
  | .boundary :: pieces => separator.map (⟨·, true⟩) ++ marked separator pieces
  | .softBoundary :: pieces => separator.map (⟨·, true⟩) ++ marked separator pieces
  | _ :: pieces => marked separator pieces

def unquoted : Piece → Piece
  | .char ⟨c, false⟩ => .value c
  | piece => piece

end Piece

end WorkflowScript.Shell
