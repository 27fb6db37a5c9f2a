import WorkflowScript.Shell.Pattern
import WorkflowScript.Text.Digits

namespace WorkflowScript.Shell

inductive Regex where
  | empty
  | char (c : Char)
  | any
  | oneOf (negated : Bool) (items : List Pattern.Item)
  | sequence (first second : Regex)
  | either (first second : Regex)
  | repeated (inner : Regex) (least : Nat) (most : Option Nat)
  | group (number : Nat) (inner : Regex)
  | again (number : Nat)
  | lineStart
  | lineStop
  | wordEdge (atStart atStop : Bool)

namespace Regex

inductive Dialect where
  | basic
  | extended
  deriving DecidableEq, Repr

inductive Mark where
  | literal (c : Char)
  | opening
  | closing
  | bar
  | star
  | plus
  | question
  | brace
  | dot
  | bracket
  | caret
  | dollar
  | reference (n : Nat)
  | kind (negated : Bool) (name : Chars)
  | edge (atStart atStop : Bool)
  deriving DecidableEq, Repr

def escapedMark (dialect : Dialect) (c : Char) : Mark :=
  match dialect, c with
  | .basic, '(' => .opening
  | .basic, ')' => .closing
  | .basic, '|' => .bar
  | .basic, '+' => .plus
  | .basic, '?' => .question
  | dialect, c =>
    if c = openBrace ∧ dialect = .basic then .brace
    else if c.isDigit ∧ c ≠ '0' then .reference (c.toNat - 0x30)
    else if c = 'w' then .kind false "word".toList
    else if c = 'W' then .kind true "word".toList
    else if c = 's' then .kind false "space".toList
    else if c = 'S' then .kind true "space".toList
    else if c = 'b' then .edge true true
    else if c = '<' then .edge true false
    else if c = '>' then .edge false true
    else if c = 'n' then .literal '\n'
    else if c = 't' then .literal '\t'
    else .literal c

def plainMark (dialect : Dialect) (c : Char) : Mark :=
  match c with
  | '*' => .star
  | '.' => .dot
  | '[' => .bracket
  | '^' => .caret
  | '$' => .dollar
  | c =>
    if dialect = .basic then .literal c
    else if c = '(' then .opening
    else if c = ')' then .closing
    else if c = '|' then .bar
    else if c = '+' then .plus
    else if c = '?' then .question
    else if c = openBrace then .brace
    else .literal c

def mark? (dialect : Dialect) : Chars → Option (Mark × Nat)
  | [] => none
  | '\\' :: c :: _ => some (escapedMark dialect c, 2)
  | c :: _ => some (plainMark dialect c, 1)

def bounds? (dialect : Dialect) (text : Chars) : Option (Nat × Option Nat × Nat) :=
  let closing : Chars := if dialect = .basic then ['\\', closeBrace] else [closeBrace]
  let first := text.takeWhile Char.isDigit
  let rest := text.drop first.length
  let least := (Text.digits? 10 first).getD 0
  if closing.isPrefixOf rest && !first.isEmpty then some (least, some least, first.length + closing.length)
  else
    match rest with
    | ',' :: rest =>
      let second := rest.takeWhile Char.isDigit
      if closing.isPrefixOf (rest.drop second.length) then
        some (least, Text.digits? 10 second, first.length + 1 + second.length + closing.length)
      else none
    | _ => none

structure Reading where
  regex : Regex
  rest : Chars
  groups : Nat

def repeatedFrom (dialect : Dialect) : Nat → Regex → Chars → Regex × Chars
  | 0, regex, text => (regex, text)
  | n + 1, regex, text =>
    match mark? dialect text with
    | some (.star, width) => repeatedFrom dialect n (.repeated regex 0 none) (text.drop width)
    | some (.plus, width) => repeatedFrom dialect n (.repeated regex 1 none) (text.drop width)
    | some (.question, width) => repeatedFrom dialect n (.repeated regex 0 (some 1)) (text.drop width)
    | some (.brace, width) =>
      match bounds? dialect (text.drop width) with
      | some (least, most, more) =>
        repeatedFrom dialect n (.repeated regex least most) (text.drop (width + more))
      | none => (regex, text)
    | _ => (regex, text)

mutual

def alternativesFrom (dialect : Dialect) : Nat → Nat → Chars → Option Reading
  | 0, _, _ => none
  | n + 1, groups, text => do
    let first ← sequenceFrom dialect n groups true text
    match mark? dialect first.rest with
    | some (.bar, width) =>
      let second ← alternativesFrom dialect n first.groups (first.rest.drop width)
      return { second with regex := .either first.regex second.regex }
    | _ => return first
termination_by structural n => n

def sequenceFrom (dialect : Dialect) : Nat → Nat → Bool → Chars → Option Reading
  | 0, _, _, _ => none
  | n + 1, groups, atStart, text =>
    match mark? dialect text with
    | none => some ⟨.empty, [], groups⟩
    | some (.bar, _) => some ⟨.empty, text, groups⟩
    | some (.closing, _) => some ⟨.empty, text, groups⟩
    | some (mark, width) => do
      let piece ← pieceFrom dialect n groups atStart mark (text.drop width)
      let isAnchor := mark == .caret
      let (regex, rest) :=
        if isAnchor then (piece.regex, piece.rest)
        else repeatedFrom dialect (text.length + 1) piece.regex piece.rest
      let more ← sequenceFrom dialect n piece.groups isAnchor rest
      return { more with regex := .sequence regex more.regex }
termination_by structural n => n

def pieceFrom (dialect : Dialect) : Nat → Nat → Bool → Mark → Chars → Option Reading
  | 0, _, _, _, _ => none
  | n + 1, groups, atStart, mark, text =>
    match mark with
    | .literal c => some ⟨.char c, text, groups⟩
    | .dot => some ⟨.any, text, groups⟩
    | .opening => do
      let inner ← alternativesFrom dialect n (groups + 1) text
      match mark? dialect inner.rest with
      | some (.closing, width) =>
        return ⟨.group (groups + 1) inner.regex, inner.rest.drop width, inner.groups⟩
      | _ => none
    | .bracket =>
      let marked := text.zipIdx.map fun c => Marked.mk c.1 (c.2 == 0 && c.1 == '!')
      match Pattern.bracket? marked with
      | some (.oneOf negated items, rest) => some ⟨.oneOf negated items, rest.map Marked.char, groups⟩
      | _ => none
    | .caret =>
      if dialect = .extended ∨ atStart = true then some ⟨.lineStart, text, groups⟩
      else some ⟨.char '^', text, groups⟩
    | .dollar =>
      let isLast := match mark? dialect text with
        | none => true
        | some (.closing, _) => true
        | some (.bar, _) => true
        | _ => false
      if dialect = .extended ∨ isLast = true then some ⟨.lineStop, text, groups⟩
      else some ⟨.char '$', text, groups⟩
    | .reference number => some ⟨.again number, text, groups⟩
    | .kind negated name => some ⟨.oneOf negated [.kind name], text, groups⟩
    | .edge start stop => some ⟨.wordEdge start stop, text, groups⟩
    | .star =>
      if dialect = .basic ∨ atStart = true then some ⟨.char '*', text, groups⟩ else none
    | .brace => some ⟨.char openBrace, text, groups⟩
    | .plus | .question => none
    | .bar | .closing => none
termination_by structural n => n

end

def parse? (dialect : Dialect) (text : Chars) : Option Regex := do
  let reading ← alternativesFrom dialect (4 * text.length + 4) 0 text
  if reading.rest.isEmpty then return reading.regex else none

structure Place where
  before : Option Char
  rest : Chars
  isStart : Bool

structure Capture where
  number : Nat
  text : Chars
  deriving DecidableEq, Repr

def isWordChar? (c : Option Char) : Bool := c.any isNameChar

def takeOne (accepts : Char → Bool) (place : Place) : Option Place :=
  match place.rest with
  | [] => none
  | c :: rest => if accepts c then some ⟨some c, rest, false⟩ else none

def tryFrom {α : Type} (ignoreCase : Bool) (next : Place → List Capture → Option α) :
    Nat → List Regex → Place → List Capture → Option α
  | 0, _, _, _ => none
  | _ + 1, [], place, captures => next place captures
  | n + 1, regex :: more, place, captures =>
    let fold (c : Char) : Char := if ignoreCase then c.toLower else c
    let goOn (place? : Option Place) : Option α :=
      match place? with
      | some place => tryFrom ignoreCase next n more place captures
      | none => none
    match regex with
    | .empty => goOn (some place)
    | .char c => goOn (takeOne (fun d => fold d == fold c) place)
    | .any => goOn (takeOne (fun _ => true) place)
    | .oneOf negated items =>
      goOn (takeOne (fun d =>
        items.any (fun item =>
          item.contains d || (ignoreCase && (item.contains d.toLower || item.contains d.toUpper)))
        != negated) place)
    | .sequence first second => tryFrom ignoreCase next n (first :: second :: more) place captures
    | .either first second =>
      match tryFrom ignoreCase next n (first :: more) place captures with
      | some found => some found
      | none => tryFrom ignoreCase next n (second :: more) place captures
    | .repeated inner least most =>
      if least > 0 then
        tryFrom ignoreCase next n (inner :: .repeated inner (least - 1) (most.map (· - 1)) :: more) place captures
      else if most = some 0 then goOn (some place)
      else
        let again : Place → List Capture → Option α := fun after captures =>
          if after.rest.length < place.rest.length then
            tryFrom ignoreCase next n (.repeated inner 0 (most.map (· - 1)) :: more) after captures
          else none
        match tryFrom ignoreCase again n [inner] place captures with
        | some found => some found
        | none => goOn (some place)
    | .group number inner =>
      let close : Place → List Capture → Option α := fun after captures =>
        let text := place.rest.take (place.rest.length - after.rest.length)
        tryFrom ignoreCase next n more after (⟨number, text⟩ :: captures.filter (·.number != number))
      tryFrom ignoreCase close n [inner] place captures
    | .again number =>
      match captures.find? (·.number == number) with
      | none => none
      | some capture =>
        if capture.text.isPrefixOf place.rest then
          goOn (some ⟨capture.text.getLast?.or place.before, place.rest.drop capture.text.length,
            place.isStart && capture.text.isEmpty⟩)
        else none
    | .lineStart => if place.isStart then goOn (some place) else none
    | .lineStop => if place.rest.isEmpty then goOn (some place) else none
    | .wordEdge atStart atStop =>
      let before := isWordChar? place.before
      let after := isWordChar? place.rest.head?
      if (atStart && !before && after) || (atStop && before && !after) then goOn (some place) else none

def reach : Nat := 1000000

def shortestRest? (ignoreCase : Bool) (regex : Regex) (place : Place) : Nat → Option Nat → Option Nat
  | 0, best => best
  | n + 1, best =>
    let accept : Place → List Capture → Option Nat := fun after _ =>
      if best.all fun rest => after.rest.length < rest then some after.rest.length else none
    match tryFrom ignoreCase accept reach [regex] place [] with
    | some rest => shortestRest? ignoreCase regex place n (some rest)
    | none => best

structure Match where
  start : Nat
  whole : Chars
  captures : List Capture
  deriving DecidableEq, Repr

def matchAt? (ignoreCase : Bool) (regex : Regex) (start : Nat) (place : Place) : Option Match := do
  let rest ← shortestRest? ignoreCase regex place (place.rest.length + 2) none
  let accept : Place → List Capture → Option (List Capture) := fun after captures =>
    if after.rest.length = rest then some captures else none
  let captures ← tryFrom ignoreCase accept reach [regex] place []
  return ⟨start, place.rest.take (place.rest.length - rest), captures⟩

def searchFrom (ignoreCase : Bool) (regex : Regex) (before : Option Char) (start : Nat) : Chars → Option Match
  | [] => matchAt? ignoreCase regex start ⟨before, [], start == 0⟩
  | c :: text =>
    match matchAt? ignoreCase regex start ⟨before, c :: text, start == 0⟩ with
    | some found => some found
    | none => searchFrom ignoreCase regex (some c) (start + 1) text

def search? (ignoreCase : Bool) (regex : Regex) (text : Chars) : Option Match :=
  searchFrom ignoreCase regex none 0 text

def capture (found : Match) (number : Nat) : Chars :=
  if number = 0 then found.whole
  else ((found.captures.find? (·.number == number)).map Capture.text).getD []

end Regex

end WorkflowScript.Shell
