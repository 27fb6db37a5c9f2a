import WorkflowScript.Shell.Word

namespace WorkflowScript.Shell

structure Marked where
  char : Char
  isQuoted : Bool
  deriving DecidableEq, Repr

namespace Pattern

inductive Item where
  | range (first last : Char)
  | kind (name : Chars)
  deriving DecidableEq, Repr

inductive Part where
  | char (c : Char)
  | any
  | many
  | oneOf (negated : Bool) (items : List Item)
  | group (mark : Char) (alternatives : List (List Part))

def isPunctuation (c : Char) : Bool := '!' ≤ c && c ≤ '~' && !c.isAlphanum

def isOfKind (name : Chars) (c : Char) : Bool :=
  match String.ofList name with
  | "alpha" => c.isAlpha
  | "digit" => c.isDigit
  | "alnum" => c.isAlphanum
  | "upper" => c.isUpper
  | "lower" => c.isLower
  | "space" => c == ' ' || ('\t' ≤ c && c ≤ '\r')
  | "blank" => isBlank c
  | "punct" => isPunctuation c
  | "print" => ' ' ≤ c && c ≤ '~'
  | "graph" => '!' ≤ c && c ≤ '~'
  | "cntrl" => c < ' ' || c == '\x7f'
  | "xdigit" => c.isDigit || ('a' ≤ c && c ≤ 'f') || ('A' ≤ c && c ≤ 'F')
  | "word" => isNameChar c
  | "ascii" => c.toNat < 0x80
  | _ => false

def Item.contains (c : Char) : Item → Bool
  | .range first last => first ≤ c && c ≤ last
  | .kind name => isOfKind name c

def isPlain (c : Char) (m : Marked) : Bool := m.char == c && !m.isQuoted

def kindName? (mark : Char) : List Marked → Option (Chars × List Marked)
  | [] => none
  | m :: text =>
    if m.char = mark ∧ (text.head?.any (isPlain ']')) = true then some ([], text.drop 1)
    else (kindName? mark text).map fun r => (m.char :: r.1, r.2)

def itemsFrom : Nat → Bool → List Marked → Option (List Item × List Marked)
  | 0, _, _ => none
  | _ + 1, _, [] => none
  | n + 1, first, m :: text =>
    if isPlain ']' m && !first then some ([], text)
    else
      let named := match text with
        | k :: after =>
          if isPlain '[' m && (k.char == ':' || k.char == '=' || k.char == '.') then
            (kindName? k.char after).map fun r => (k.char, r)
          else none
        | [] => none
      match named with
      | some (':', name, rest) => (itemsFrom n false rest).map fun r => (.kind name :: r.1, r.2)
      | some (_, name, rest) =>
        (itemsFrom n false rest).map fun r => (name.map (fun c => .range c c) ++ r.1, r.2)
      | none =>
        match text with
        | d :: last :: rest =>
          if isPlain '-' d && !isPlain ']' last then
            (itemsFrom n false rest).map fun r => (.range m.char last.char :: r.1, r.2)
          else (itemsFrom n false text).map fun r => (.range m.char m.char :: r.1, r.2)
        | text => (itemsFrom n false text).map fun r => (.range m.char m.char :: r.1, r.2)

def bracket? (text : List Marked) : Option (Part × List Marked) :=
  let negated := text.head?.any fun m => isPlain '!' m || isPlain '^' m
  let text := if negated then text.drop 1 else text
  (itemsFrom (text.length + 1) true text).map fun r => (.oneOf negated r.1, r.2)

def alternatives? (depth : Nat) (before : List Marked) :
    List Marked → Option (List (List Marked) × List Marked)
  | [] => none
  | m :: text =>
    if isPlain ')' m then
      match depth with
      | 0 => some ([before], text)
      | depth + 1 => alternatives? depth (before ++ [m]) text
    else if isPlain '|' m && depth == 0 then
      (alternatives? depth [] text).map fun r => (before :: r.1, r.2)
    else alternatives? (if isPlain '(' m then depth + 1 else depth) (before ++ [m]) text

def isGroupMark (m : Marked) : Bool := !m.isQuoted && ['?', '*', '+', '@', '!'].contains m.char

def partsFrom (groups : Bool) : Nat → List Marked → List Part
  | 0, _ => []
  | _ + 1, [] => []
  | n + 1, m :: text =>
    let group := match text with
      | p :: inside =>
        if groups && isGroupMark m && isPlain '(' p then alternatives? 0 [] inside else none
      | [] => none
    match group with
    | some (alternatives, rest) =>
      .group m.char (alternatives.map (partsFrom groups n)) :: partsFrom groups n rest
    | none =>
      if isPlain '*' m then .many :: partsFrom groups n text
      else if isPlain '?' m then .any :: partsFrom groups n text
      else if isPlain '[' m then
        match bracket? text with
        | some (part, rest) => part :: partsFrom groups n rest
        | none => .char '[' :: partsFrom groups n text
      else .char m.char :: partsFrom groups n text

def ofMarked (groups : Bool) (text : List Marked) : List Part := partsFrom groups (text.length + 1) text

def tidy (ends : List Chars) : List Chars :=
  let sorted := ends.mergeSort fun a b => decide (b.length ≤ a.length)
  sorted.foldr (fun rest kept =>
    if kept.head?.any fun other => other.length == rest.length then kept else rest :: kept) []

def afterChar (accepts : Char → Bool) : Chars → Option Chars
  | [] => none
  | c :: text => if accepts c then some text else none

def tails : Chars → List Chars
  | [] => [[]]
  | c :: text => (c :: text) :: tails text

def closure (step : List Chars → List Chars) : Nat → List Chars → List Chars
  | 0, ends => ends
  | n + 1, ends =>
    let more := tidy (ends ++ step ends)
    if more.length = ends.length then ends else closure step n more

def leftFrom (ignoreCase : Bool) : Nat → List Part → List Chars → List Chars
  | _, [], ends => ends
  | 0, _, _ => []
  | n + 1, part :: parts, ends =>
    let fold (c : Char) : Char := if ignoreCase then c.toLower else c
    let one (alternatives : List (List Part)) (ends : List Chars) : List Chars :=
      tidy (alternatives.flatMap fun alternative => leftFrom ignoreCase n alternative ends)
    let steps := (ends.head?.getD []).length + 1
    let after := match part with
      | .char c => ends.filterMap (afterChar fun d => fold d == fold c)
      | .any => ends.filterMap (afterChar fun _ => true)
      | .many => tails (ends.head?.getD [])
      | .oneOf negated items =>
        ends.filterMap (afterChar fun d =>
          items.any (fun item =>
            item.contains d || (ignoreCase && (item.contains d.toLower || item.contains d.toUpper)))
          != negated)
      | .group mark alternatives =>
        match mark with
        | '?' => tidy (ends ++ one alternatives ends)
        | '*' => closure (one alternatives) steps ends
        | '+' => closure (one alternatives) steps (one alternatives ends)
        | '!' =>
          tidy (ends.flatMap fun rest =>
            let matched := one alternatives [rest]
            (tails rest).filter fun left => !(matched.any fun other => other.length == left.length))
        | _ => one alternatives ends
    if after.isEmpty then [] else leftFrom ignoreCase n parts after

def reach : Nat := 10000

def left (ignoreCase : Bool) (parts : List Part) (text : Chars) : List Chars :=
  leftFrom ignoreCase reach parts [text]

def matchesAll (ignoreCase : Bool) (parts : List Part) (text : Chars) : Bool :=
  (left ignoreCase parts text).any List.isEmpty

def isPatternFrom (isOpen : Bool) : List Marked → Bool
  | [] => false
  | m :: text =>
    if m.isQuoted then isPatternFrom isOpen text
    else if m.char == '*' || m.char == '?' || (isOpen && m.char == ']') then true
    else isPatternFrom (m.char == '[' || (isOpen && m.char != '/')) text

def isPattern (text : List Marked) : Bool := isPatternFrom false text

end Pattern

end WorkflowScript.Shell
