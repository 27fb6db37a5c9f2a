import WorkflowScript.Shell.Word

namespace WorkflowScript.Shell

structure Options where
  given : List (Char × Chars)
  operands : List Chars
  deriving DecidableEq, Repr

namespace Options

structure Known where
  plain : String
  withValue : String
  names : List (String × Char)
  mixed : Bool

def Known.ofLetters (plain withValue : String) : Known := ⟨plain, withValue, [], true⟩

def Known.first (plain withValue : String) : Known := ⟨plain, withValue, [], false⟩

def Known.isPlain (known : Known) (c : Char) : Bool := known.plain.toList.contains c

def Known.takesValue (known : Known) (c : Char) : Bool := known.withValue.toList.contains c

def add (c : Char) (value : Chars) (options : Options) : Options :=
  { options with given := (c, value) :: options.given }

def letters (known : Known) (more : List Chars → Except Chars Options) (next : List Chars) :
    Chars → Except Chars Options
  | [] => more next
  | c :: text =>
    if known.takesValue c then
      match text, next with
      | [], [] => .error ("option requires an argument -- '".toList ++ [c, '\''])
      | [], value :: next => (more next).map (add c value)
      | value, next => (more next).map (add c value)
    else if known.isPlain c then (letters known more next text).map (add c [])
    else .error ("invalid option -- '".toList ++ [c, '\''])

def named (known : Known) (more : List Chars → Except Chars Options) (word : Chars) (next : List Chars) :
    Except Chars Options :=
  let (name, value) := word.span (· != '=')
  match known.names.lookup (.ofList name) with
  | none => .error ("unrecognized option '--".toList ++ word ++ ['\''])
  | some c =>
    if known.takesValue c then
      match value, next with
      | '=' :: value, next => (more next).map (add c value)
      | _, value :: next => (more next).map (add c value)
      | _, [] => .error ("option '--".toList ++ word ++ "' requires an argument".toList)
    else (more next).map (add c [])

def readFrom (known : Known) : Nat → List Chars → Except Chars Options
  | 0, words => .ok ⟨[], words⟩
  | _ + 1, [] => .ok ⟨[], []⟩
  | n + 1, word :: words =>
    match word with
    | ['-', '-'] => .ok ⟨[], words⟩
    | '-' :: '-' :: name => named known (readFrom known n) name words
    | '-' :: c :: text => letters known (readFrom known n) words (c :: text)
    | word =>
      if known.mixed then
        (readFrom known n words).map fun options => { options with operands := word :: options.operands }
      else .ok ⟨[], word :: words⟩

def read (known : Known) (words : List Chars) : Except Chars Options :=
  readFrom known (words.length + 1) words

def has (options : Options) (c : Char) : Bool := options.given.any (·.1 == c)

def value? (options : Options) (c : Char) : Option Chars :=
  (options.given.reverse.find? (·.1 == c)).map Prod.snd

def values (options : Options) (c : Char) : List Chars :=
  (options.given.filter (·.1 == c)).map Prod.snd

def last? (options : Options) (letters : String) : Option Char :=
  (options.given.reverse.find? fun o => letters.toList.contains o.1).map Prod.fst

end Options

end WorkflowScript.Shell
