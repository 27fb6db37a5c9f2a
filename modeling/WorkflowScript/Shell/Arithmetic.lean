import WorkflowScript.Shell.Word
import WorkflowScript.Text.Digits

namespace WorkflowScript.Shell.Arithmetic

def isSpace (c : Char) : Bool := c == ' ' || c == '\t' || c == '\n'

inductive Cause where
  | operandExpected
  | operatorExpected
  | operatorInvalid
  | expressionExpected
  | colonExpected
  | parenthesisExpected
  | notAssignable
  | badSubscript
  | digitTooGreat
  | baseInvalid
  | digitsExpected
  | divisionByZero
  | exponentNegative
  | tooDeep
  deriving DecidableEq, Repr

def Cause.message : Cause → String
  | .operandExpected => "syntax error: operand expected"
  | .operatorExpected => "syntax error in expression"
  | .operatorInvalid => "syntax error: invalid arithmetic operator"
  | .expressionExpected => "expression expected"
  | .colonExpected => "\x60:' expected for conditional expression"
  | .parenthesisExpected => "missing \x60)'"
  | .notAssignable => "attempted assignment to non-variable"
  | .badSubscript => "bad array subscript"
  | .digitTooGreat => "value too great for base"
  | .baseInvalid => "invalid arithmetic base"
  | .digitsExpected => "invalid integer constant"
  | .divisionByZero => "division by 0"
  | .exponentNegative => "exponent less than 0"
  | .tooDeep => "expression recursion level exceeded"

structure Fault where
  cause : Cause
  token : Chars
  text : Chars := []
  unread : Nat := 0
  deriving DecidableEq, Repr

def Fault.within (text : Chars) (fault : Fault) : Fault :=
  if fault.text.isEmpty then { fault with text := text.take (text.length - fault.unread) } else fault

def Fault.message (fault : Fault) : Chars :=
  fault.text.dropWhile isSpace ++ ": ".toList ++
    fault.cause.message.toList ++ " (error token is \"".toList ++ fault.token ++ "\")".toList

inductive Token where
  | number (text : Chars)
  | name (text : Chars) (subscript : Option Chars)
  | mark (text : String)
  | finish
  deriving DecidableEq, Repr

structure Placed where
  token : Token
  text : Chars
  deriving DecidableEq, Repr

def marks : List String :=
  ["<<=", ">>=", "**", "&&", "||", "==", "!=", "<=", ">=", "<<", ">>", "++", "--", "+=", "-=", "*=", "/=",
    "%=", "&=", "^=", "|=", "+", "-", "*", "/", "%", "<", ">", "=", "!", "~", "&", "|", "^", "?", ":", "(",
    ")", ","]

def bracketed? (depth : Nat) : Chars → Option (Chars × Chars)
  | [] => none
  | ']' :: text =>
    match depth with
    | 0 => some ([], text)
    | depth + 1 => (bracketed? depth text).map fun r => (']' :: r.1, r.2)
  | c :: text => (bracketed? (if c = '[' then depth + 1 else depth) text).map fun r => (c :: r.1, r.2)

def isNumberChar (c : Char) : Bool := isNameChar c || c == '#' || c == '@'

def Token.isName : Token → Bool
  | .name _ _ => true
  | _ => false

def Token.isMark : Token → Bool
  | .mark _ => true
  | _ => false

/-- The mark at the start of a text, after a token. A sign that is written twice changes a variable only
after a name or before one. -/
def markAt? (last : Option Token) (text : Chars) : Option String := do
  let mark ← marks.find? fun mark => mark.toList.isPrefixOf text
  if mark ≠ "++" ∧ mark ≠ "--" then return mark
  else if last.any Token.isName ∨ (((text.drop 2).dropWhile isSpace).head?.any isNameStart) = true then
    return mark
  else return (mark.dropEnd 1).toString

def tokensFrom : Nat → Option Placed → Chars → Except Fault (List Placed)
  | 0, _, _ => .ok []
  | _ + 1, last, [] => .ok [⟨.finish, (last.map Placed.text).getD []⟩]
  | n + 1, last, c :: text =>
    let next (token : Token) (rest : Chars) : Except Fault (List Placed) :=
      (tokensFrom n (some ⟨token, c :: text⟩) rest).map (⟨token, c :: text⟩ :: ·)
    if isSpace c then tokensFrom n last text
    else if c.isDigit then next (.number (c :: text.takeWhile isNumberChar)) (text.dropWhile isNumberChar)
    else if isNameStart c then
      let name := c :: text.takeWhile isNameChar
      let rest := text.dropWhile isNameChar
      match rest with
      | '[' :: after =>
        match bracketed? 0 after with
        | some (subscript, rest) => next (.name name (some subscript)) rest
        | none => .error { cause := .badSubscript, token := c :: text }
      | rest => next (.name name none) rest
    else
      match markAt? (last.map Placed.token) (c :: text) with
      | some mark => next (.mark mark) ((c :: text).drop mark.length)
      | none =>
        let isExpected := last.all fun placed => placed.token.isMark
        .error { cause := if isExpected then .operandExpected else .operatorInvalid, token := c :: text }

structure Place where
  name : Chars
  subscript : Option Chars
  deriving DecidableEq, Repr

inductive Expr where
  | number (value : Int)
  | place (place : Place)
  | unary (operator : String) (operand : Expr)
  | binary (operator : String) (left right : Expr) (rest : Chars)
  | conditional (condition yes no : Expr)
  | assign (operator : String) (place : Place) (value : Expr) (rest : Chars)
  | change (step : Int) (isAfter : Bool) (place : Place)
  | failing (before : Expr) (fault : Fault)

def digit? (base : Nat) (c : Char) : Option Nat :=
  let value :=
    if c.isDigit then some (c.toNat - 0x30)
    else if c.isLower then some (c.toNat - 0x61 + 10)
    else if c.isUpper then some (c.toNat - 0x41 + (if base ≤ 36 then 10 else 36))
    else if c = '@' then some 62
    else if c = '_' then some 63
    else none
  value.filter (· < base)

def digitsFrom (base : Nat) (number : Chars) (value : Nat) : Chars → Except Fault Nat
  | [] => .ok value
  | c :: digits =>
    match digit? base c with
    | some d => digitsFrom base number (value * base + d) digits
    | none => .error { cause := .digitTooGreat, token := number }

def wrap (n : Int) : Int := n.bmod (Nat.pow 2 64)

def number (text : Chars) : Except Fault Int :=
  let value : Except Fault Nat :=
    match text with
    | '0' :: 'x' :: digits => digitsFrom 16 text 0 digits
    | '0' :: 'X' :: digits => digitsFrom 16 text 0 digits
    | text =>
      match text.span (· != '#') with
      | (base, _ :: digits) =>
        match Text.digits? 10 base with
        | some n =>
          if n < 2 ∨ 64 < n then .error { cause := .baseInvalid, token := text }
          else if digits = [] then .error { cause := .digitsExpected, token := text }
          else digitsFrom n text 0 digits
        | none => .error { cause := .baseInvalid, token := text }
      | (digits, []) => digitsFrom (if digits.head? = some '0' then 8 else 10) text 0 digits
  value.map fun n => wrap n

def levels : List (List String) :=
  [["||"], ["&&"], ["|"], ["^"], ["&"], ["==", "!="], ["<=", ">=", "<", ">"], ["<<", ">>"], ["+", "-"],
    ["*", "/", "%"]]

def assigners : List String := ["=", "+=", "-=", "*=", "/=", "%=", "<<=", ">>=", "&=", "^=", "|="]

abbrev Parsed := Except Fault (Expr × List Placed)

def textOf (tokens : List Placed) : Chars :=
  match tokens with
  | [] => []
  | placed :: _ => placed.text

def levelFrom (operators : List String) (operand : List Placed → Parsed) : Nat → Expr → List Placed → Parsed
  | n + 1, left, ⟨.mark mark, text⟩ :: tokens =>
    if operators.contains mark then do
      let (right, rest) ← operand tokens
      levelFrom operators operand n (.binary mark left right (textOf tokens)) rest
    else .ok (left, ⟨.mark mark, text⟩ :: tokens)
  | _, left, tokens => .ok (left, tokens)

def level (operators : List String) (operand : List Placed → Parsed) (tokens : List Placed) : Parsed := do
  let (left, rest) ← operand tokens
  levelFrom operators operand (rest.length + 1) left rest

mutual

def comma : Nat → List Placed → Parsed
  | 0, tokens => .error { cause := .tooDeep, token := textOf tokens }
  | n + 1, tokens => level [","] (assignment n) tokens
termination_by structural n => n

def assignment : Nat → List Placed → Parsed
  | 0, tokens => .error { cause := .tooDeep, token := textOf tokens }
  | n + 1, tokens =>
    match tokens with
    | ⟨.name name subscript, _⟩ :: ⟨.mark mark, _⟩ :: rest =>
      if assigners.contains mark then do
        let (value, after) ← assignment n rest
        .ok (.assign (mark.dropEnd 1).toString ⟨name, subscript⟩ value (textOf rest), after)
      else conditional n tokens
    | tokens => conditional n tokens
termination_by structural n => n

def conditional : Nat → List Placed → Parsed
  | 0, tokens => .error { cause := .tooDeep, token := textOf tokens }
  | n + 1, tokens => do
    let (condition, rest) ← levels.foldr (fun operators operand => level operators operand) (power n) tokens
    match rest with
    | ⟨.mark "?", _⟩ :: rest =>
      if rest.head?.any fun placed => placed.token == .mark ":" || placed.token == .finish then
        throw { cause := .expressionExpected, token := textOf rest }
      let (yes, rest) ← comma n rest
      match rest with
      | ⟨.mark ":", _⟩ :: rest =>
        if rest.head?.any fun placed => placed.token == .finish then
          throw { cause := .expressionExpected, token := textOf rest }
        let (no, rest) ← assignment n rest
        .ok (.conditional condition yes no, rest)
      | rest => .error { cause := .colonExpected, token := textOf rest }
    | rest => .ok (condition, rest)
termination_by structural n => n

def power : Nat → List Placed → Parsed
  | 0, tokens => .error { cause := .tooDeep, token := textOf tokens }
  | n + 1, tokens => do
    let (base, rest) ← unary n tokens
    match rest with
    | ⟨.mark "**", _⟩ :: rest =>
      let (exponent, after) ← power n rest
      .ok (.binary "**" base exponent (textOf rest), after)
    | rest => .ok (base, rest)
termination_by structural n => n

def unary : Nat → List Placed → Parsed
  | 0, tokens => .error { cause := .tooDeep, token := textOf tokens }
  | n + 1, tokens =>
    match tokens with
    | ⟨.mark "++", _⟩ :: ⟨.name name subscript, _⟩ :: rest => .ok (.change 1 true ⟨name, subscript⟩, rest)
    | ⟨.mark "--", _⟩ :: ⟨.name name subscript, _⟩ :: rest =>
      .ok (.change (-1) true ⟨name, subscript⟩, rest)
    | ⟨.name name subscript, _⟩ :: ⟨.mark "++", _⟩ :: rest => .ok (.change 1 false ⟨name, subscript⟩, rest)
    | ⟨.name name subscript, _⟩ :: ⟨.mark "--", _⟩ :: rest =>
      .ok (.change (-1) false ⟨name, subscript⟩, rest)
    | ⟨.name name subscript, _⟩ :: rest => .ok (.place ⟨name, subscript⟩, rest)
    | ⟨.number digits, text⟩ :: rest =>
      match number digits with
      | .ok value => .ok (.number value, rest)
      | .error fault => .error { fault with unread := text.length - digits.length }
    | ⟨.mark "(", _⟩ :: rest => do
      let (inner, rest) ← comma n rest
      match rest with
      | ⟨.mark ")", _⟩ :: rest => .ok (inner, rest)
      | rest => .error { cause := .parenthesisExpected, token := textOf rest }
    | ⟨.mark mark, text⟩ :: rest =>
      if mark == "!" || mark == "~" || mark == "-" || mark == "+" then do
        let (operand, rest) ← unary n rest
        .ok (.unary mark operand, rest)
      else .error { cause := .operandExpected, token := text }
    | tokens => .error { cause := .operandExpected, token := textOf tokens }
termination_by structural n => n

end

def parse (text : Chars) : Except Fault Expr := do
  let tokens ← tokensFrom (text.length + 1) none text
  if tokens.length ≤ 1 then return .number 0
  else
    let (expr, rest) ← comma (6 * tokens.length + 6) tokens
    match rest with
    | [] | ⟨.finish, _⟩ :: _ => return expr
    | ⟨.mark mark, text⟩ :: _ =>
      let cause := if assigners.contains mark then .notAssignable else .operatorExpected
      return .failing expr { cause := cause, token := text }
    | rest => return .failing expr { cause := .operatorExpected, token := textOf rest }

def truth (b : Bool) : Int := if b then 1 else 0

def toBits (n : Int) : BitVec 64 := BitVec.ofInt 64 n

def ofBits (b : BitVec 64) : Int := b.toInt

def distance (n : Int) : Nat := (n % 64).toNat

def powerFrom (base : Int) : Nat → Int
  | 0 => 1
  | n + 1 => wrap (base * powerFrom base n)

def powerOf (base : Int) (exponent : Nat) : Int :=
  if exponent < 64 then powerFrom base exponent
  else (List.range 64).foldr (fun i acc =>
    let squared := wrap (acc * acc)
    if exponent.testBit i then wrap (squared * base) else squared) 1

def applyUnary (operator : String) (n : Int) : Int :=
  match operator with
  | "!" => truth (n == 0)
  | "~" => -n - 1
  | "-" => wrap (-n)
  | _ => n

def applyBinary (operator : String) (a b : Int) (rest : Chars) : Except Fault Int :=
  match operator with
  | "," => .ok b
  | "|" => .ok (ofBits (toBits a ||| toBits b))
  | "^" => .ok (ofBits (toBits a ^^^ toBits b))
  | "&" => .ok (ofBits (toBits a &&& toBits b))
  | "==" => .ok (truth (a == b))
  | "!=" => .ok (truth (a != b))
  | "<=" => .ok (truth (decide (a ≤ b)))
  | ">=" => .ok (truth (decide (b ≤ a)))
  | "<" => .ok (truth (decide (a < b)))
  | ">" => .ok (truth (decide (b < a)))
  | "<<" => .ok (ofBits (toBits a <<< distance b))
  | ">>" => .ok (ofBits ((toBits a).sshiftRight (distance b)))
  | "+" => .ok (wrap (a + b))
  | "-" => .ok (wrap (a - b))
  | "*" => .ok (wrap (a * b))
  | "/" => if b = 0 then .error { cause := .divisionByZero, token := rest } else .ok (wrap (a.tdiv b))
  | "%" => if b = 0 then .error { cause := .divisionByZero, token := rest } else .ok (a.tmod b)
  | "**" => if b < 0 then .error { cause := .exponentNegative, token := rest } else .ok (powerOf a b.toNat)
  | _ => .error { cause := .operatorExpected, token := rest }

structure Access (m : Type → Type) where
  get : Place → m Int
  set : Place → Int → m Unit
  fail : Fault → m Int

section

variable {m : Type → Type} [Monad m] (access : Access m)

def lift : Except Fault Int → m Int
  | .ok n => return n
  | .error fault => access.fail fault

def eval : Expr → m Int
  | .number n => return n
  | .place place => access.get place
  | .unary operator operand => return applyUnary operator (← eval operand)
  | .binary "&&" left right _ => do
    if (← eval left) = 0 then return 0 else return truth ((← eval right) != 0)
  | .binary "||" left right _ => do
    if (← eval left) ≠ 0 then return 1 else return truth ((← eval right) != 0)
  | .binary operator left right rest => do
    let a ← eval left
    let b ← eval right
    lift access (applyBinary operator a b rest)
  | .conditional condition yes no => do
    if (← eval condition) ≠ 0 then eval yes else eval no
  | .assign operator place value rest => do
    let new ← eval value
    let result ←
      if operator.isEmpty then pure new
      else lift access (applyBinary operator (← access.get place) new rest)
    access.set place result
    return result
  | .change step isAfter place => do
    let old ← access.get place
    let new := wrap (old + step)
    access.set place new
    return if isAfter then new else old
  | .failing before fault => do
    let _ ← eval before
    access.fail fault

end

end WorkflowScript.Shell.Arithmetic
