import WorkflowScript.Shell.Pattern

namespace WorkflowScript.Shell.Edit

def removeStart (ignoreCase longest : Bool) (pattern : List Pattern.Part) (text : Chars) : Chars :=
  let left := Pattern.left ignoreCase pattern text
  ((if longest then left.getLast? else left.head?).getD text)

def removeEnd (ignoreCase longest : Bool) (pattern : List Pattern.Part) (text : Chars) : Chars :=
  let starts := (Pattern.tails text).filter (Pattern.matchesAll ignoreCase pattern)
  match (if longest then starts.head? else starts.getLast?) with
  | some tail => text.take (text.length - tail.length)
  | none => text

abbrev Replacement := List (Option Char)

namespace Replacement

def ofMarked : List Marked → Replacement
  | [] => []
  | m :: text =>
    match m, text with
    | ⟨'\\', false⟩, ⟨c, isQuoted⟩ :: more =>
      if c = '&' ∨ c = '\\' then some c :: ofMarked more
      else some '\\' :: ofMarked (⟨c, isQuoted⟩ :: more)
    | ⟨'&', false⟩, text => none :: ofMarked text
    | ⟨c, _⟩, text => some c :: ofMarked text

def plain (text : List Marked) : Replacement := text.map fun m => some m.char

def fill (new : Replacement) (found : Chars) : Chars := new.flatMap fun c => (c.map ([·])).getD found

end Replacement

def replaceFrom (ignoreCase everywhere : Bool) (pattern : List Pattern.Part) (new : Replacement) :
    Nat → Chars → Chars
  | 0, text => text
  | n + 1, text =>
    match (Pattern.left ignoreCase pattern text).getLast?, text with
    | some left, c :: rest =>
      if left.length < text.length then
        new.fill (text.take (text.length - left.length)) ++
          (if everywhere then replaceFrom ignoreCase everywhere pattern new n left else left)
      else c :: replaceFrom ignoreCase everywhere pattern new n rest
    | none, c :: rest => c :: replaceFrom ignoreCase everywhere pattern new n rest
    | _, [] => []

def replaceMatches (ignoreCase : Bool) (scope : ReplaceScope) (pattern : List Pattern.Part)
    (new : Replacement) (text : Chars) : Chars :=
  match scope with
  | .first => replaceFrom ignoreCase false pattern new (text.length + 1) text
  | .all => replaceFrom ignoreCase true pattern new (text.length + 1) text
  | .start =>
    match (Pattern.left ignoreCase pattern text).getLast? with
    | some left => new.fill (text.take (text.length - left.length)) ++ left
    | none => text
  | .stop =>
    let kept := removeEnd ignoreCase true pattern text
    if kept.length < text.length ∨ Pattern.matchesAll ignoreCase pattern [] then
      kept ++ new.fill (text.drop kept.length)
    else text

def changeCase (toUpper everywhere : Bool) (pattern : List Pattern.Part) (text : Chars) : Chars :=
  let change (c : Char) : Char :=
    if pattern.isEmpty || Pattern.matchesAll false pattern [c] then
      (if toUpper then c.toUpper else c.toLower)
    else c
  match text with
  | [] => []
  | c :: rest => change c :: if everywhere then rest.map change else rest

def slice? {α : Type} (items : List α) (offset : Int) (length : Option Int) : Option (List α) :=
  let size : Int := items.length
  let start := if offset < 0 then offset + size else offset
  if start < 0 ∨ size < start then some []
  else
    match length with
    | none => some (items.drop start.toNat)
    | some n =>
      let stop := if n < 0 then size + n else start + n
      if stop < start then (if n < 0 then none else some []) else
        some ((items.drop start.toNat).take (stop - start).toNat)

end WorkflowScript.Shell.Edit
