namespace WorkflowScript.Shell

inductive Enclosure where
  | none
  | single
  | double
  | escape (inDouble : Bool)
  deriving DecidableEq, Repr

structure WordSplit where
  enclosure : Enclosure
  word : Option (List Char)
  deriving DecidableEq, Repr

namespace WordSplit

def start : WordSplit := ⟨.none, none⟩

def extend (split : WordSplit) (enclosure : Enclosure) (text : List Char) : WordSplit :=
  ⟨enclosure, some (split.word.getD [] ++ text)⟩

def isSeparator (c : Char) : Bool := c == ' ' || c == '\t' || c == '\n'

def isEscapable (c : Char) : Bool := c == '$' || c == '"' || c == '\\' || c == '\x60'

def step (split : WordSplit) (c : Char) : List (List Char) × WordSplit :=
  match split.enclosure with
  | .none =>
    if isSeparator c then (split.word.toList, start)
    else match c with
      | '\'' => ([], split.extend .single [])
      | '"' => ([], split.extend .double [])
      | '\\' => ([], { split with enclosure := .escape false })
      | c => ([], split.extend .none [c])
  | .single => if c = '\'' then ([], { split with enclosure := .none }) else ([], split.extend .single [c])
  | .double =>
    match c with
    | '"' => ([], { split with enclosure := .none })
    | '\\' => ([], { split with enclosure := .escape true })
    | c => ([], split.extend .double [c])
  | .escape false => if c = '\n' then ([], { split with enclosure := .none }) else ([], split.extend .none [c])
  | .escape true =>
    if c = '\n' then ([], { split with enclosure := .double })
    else if isEscapable c then ([], split.extend .double [c])
    else ([], split.extend .double ['\\', c])

def finish (split : WordSplit) : List (List Char) :=
  match split.enclosure with
  | .escape _ => (split.extend .none ['\\']).word.toList
  | _ => split.word.toList

def words (split : WordSplit) : List Char → List (List Char)
  | [] => split.finish
  | c :: text =>
    let (found, split) := split.step c
    found ++ split.words text

end WordSplit

def words (text : List Char) : List (List Char) := WordSplit.start.words text

end WorkflowScript.Shell
