import WorkflowScript.Shell.Escape
import WorkflowScript.Shell.Quote
import WorkflowScript.Shell.Real

namespace WorkflowScript.Shell.Format

structure EchoStyle where
  endsLine : Bool
  escapes : Bool
  deriving DecidableEq, Repr

def EchoStyle.set (style : EchoStyle) : Char → EchoStyle
  | 'n' => { style with endsLine := false }
  | 'e' => { style with escapes := true }
  | _ => { style with escapes := false }

def isEchoOption (word : Chars) : Bool :=
  match word with
  | '-' :: c :: letters => (c :: letters).all fun c => c == 'n' || c == 'e' || c == 'E'
  | _ => false

def echoStyle (style : EchoStyle) : List Chars → EchoStyle × List Chars
  | [] => (style, [])
  | word :: words =>
    if isEchoOption word then echoStyle ((word.drop 1).foldl EchoStyle.set style) words
    else (style, word :: words)

def echo (words : List Chars) : Chars :=
  let (style, words) := echoStyle ⟨true, false⟩ words
  let plain := [' '].intercalate words
  let (shown, goesOn) := if style.escapes then Escape.replace .shown plain else (plain, true)
  shown ++ if style.endsLine && goesOn then ['\n'] else []

def isSpace (c : Char) : Bool := c == ' ' || ('\t' ≤ c && c ≤ '\r')

structure ReadNumber where
  value : Int
  isWhole : Bool

def readNumber (text : Chars) : ReadNumber :=
  let start := text.dropWhile isSpace
  let (negative, digits) := match start with
    | '-' :: rest => (true, rest)
    | '+' :: rest => (false, rest)
    | rest => (false, rest)
  let (base, number) := match digits with
    | '0' :: x :: c :: rest =>
      if (x = 'x' ∨ x = 'X') ∧ Escape.isHex c = true then (16, c :: rest) else (8, digits)
    | '0' :: _ => (8, digits)
    | _ => (10, digits)
  let taken := number.takeWhile fun c => (Text.digit? base c).isSome
  let value : Int := Escape.value base taken
  let isWhole := if taken.isEmpty then text.isEmpty else taken.length == number.length
  ⟨if negative then -value else value, isWhole⟩

def invalidNumber (text : Chars) : Chars :=
  let reason := match text with
    | '0' :: 'x' :: _ => "invalid hex number"
    | '0' :: c :: _ => if c.isDigit then "invalid octal number" else "invalid number"
    | _ => "invalid number"
  text ++ ": ".toList ++ reason.toList

def outOfRange (text : Chars) : Chars :=
  "warning: ".toList ++ text ++ ": Numerical result out of range".toList

structure Printing where
  arguments : List Chars
  text : Chars
  complaints : List Chars
  failed : Bool
  stopped : Bool

abbrev Printer := StateM Printing

def nextArgument : Printer (Option Chars) := do
  let printing ← get
  set { printing with arguments := printing.arguments.drop 1 }
  return printing.arguments.head?

def put (text : Chars) : Printer Unit := modify fun p => { p with text := p.text ++ text }

def complain (fails : Bool) (text : Chars) : Printer Unit :=
  modify fun p => { p with complaints := p.complaints ++ [text], failed := p.failed || fails }

def stop : Printer Unit := modify fun p => { p with stopped := true }

def quotedCode? (text : Chars) : Option Nat :=
  match text with
  | '\'' :: rest => some ((rest.head?.map Char.toNat).getD 0)
  | '"' :: rest => some ((rest.head?.map Char.toNat).getD 0)
  | _ => none

def nextNumber (least most : Int) : Printer Int := do
  match ← nextArgument with
  | none => return 0
  | some text =>
    match quotedCode? text with
    | some code => return code
    | none =>
      let number := readNumber text
      if !number.isWhole then complain true (invalidNumber text)
      else if number.value < least ∨ most < number.value then complain false (outOfRange text)
      return max least (min most number.value)

def greatestSigned : Int := Int.pow 2 63 - 1

def leastSigned : Int := -Int.pow 2 63

def greatestUnsigned : Int := Int.pow 2 64 - 1

def nextSigned : Printer Int := nextNumber leastSigned greatestSigned

def nextUnsigned : Printer Nat := do
  let n ← nextNumber (-greatestUnsigned) greatestUnsigned
  return (n % Int.pow 2 64).toNat

def nextReal : Printer Real := do
  match ← nextArgument with
  | none => return .finite false 0 1
  | some text =>
    match quotedCode? text with
    | some code => return .finite false code 1
    | none =>
      let (value, rest) := Real.read (text.dropWhile isSpace)
      unless rest.isEmpty do complain true (invalidNumber text)
      return value

structure Directive where
  flags : Chars
  width : Nat
  precision : Option Nat

namespace Directive

def has (d : Directive) (flag : Char) : Bool := d.flags.contains flag

def padding (d : Directive) (c : Char) (text : Chars) : Chars :=
  List.replicate (d.width - text.length) c

def pad (d : Directive) (text : Chars) : Chars :=
  if d.has '-' then text ++ d.padding ' ' text else d.padding ' ' text ++ text

def padNumber (d : Directive) (fillsZeros : Bool) (mark digits : Chars) : Chars :=
  if fillsZeros && d.has '0' && !d.has '-' then mark ++ d.padding '0' (mark ++ digits) ++ digits
  else d.pad (mark ++ digits)

def sign (d : Directive) (negative : Bool) : Chars :=
  if negative then ['-'] else if d.has '+' then ['+'] else if d.has ' ' then [' '] else []

def digits (d : Directive) (base n : Nat) : Chars :=
  let digits := if n = 0 ∧ d.precision = some 0 then [] else Nat.toDigits base n
  List.replicate (d.precision.getD 1 - digits.length) '0' ++ digits

def cut (d : Directive) (text : Chars) : Chars :=
  match d.precision with
  | some n => text.take n
  | none => text

def showSigned (d : Directive) (n : Int) : Chars :=
  d.padNumber d.precision.isNone (d.sign (n < 0)) (d.digits 10 n.natAbs)

def showUnsigned (d : Directive) (kind : Char) (n : Nat) : Chars :=
  let fills := d.precision.isNone
  match kind with
  | 'o' =>
    let digits := d.digits 8 n
    d.padNumber fills [] (if d.has '#' && digits.head? != some '0' then '0' :: digits else digits)
  | 'x' => d.padNumber fills (if d.has '#' && n != 0 then ['0', 'x'] else []) (d.digits 16 n)
  | 'X' =>
    d.padNumber fills (if d.has '#' && n != 0 then ['0', 'X'] else []) ((d.digits 16 n).map Char.toUpper)
  | _ => d.padNumber fills [] (d.digits 10 n)

def showReal (d : Directive) (kind : Char) (value : Real) : Chars :=
  let capital (text : String) : Chars := if kind.isUpper then text.toList.map Char.toUpper else text.toList
  match value with
  | .infinite negative => d.padNumber false (d.sign negative) (capital "inf")
  | .undefined negative => d.padNumber false (d.sign negative) (capital "nan")
  | .finite negative n m =>
    let places := d.precision.getD 6
    let text := match kind.toLower with
      | 'f' => Real.fixed n m places (d.has '#')
      | 'e' => Real.scientific kind n m places (d.has '#')
      | _ => Real.general (if kind = 'G' then 'E' else 'e') n m places (d.has '#')
    d.padNumber true (d.sign negative) text

end Directive

def sizeAt (format : Chars) : Printer (Option Int × Chars) := do
  match format with
  | '*' :: rest => return (some (← nextSigned), rest)
  | format =>
    let digits := format.takeWhile Char.isDigit
    return ((Text.digits? 10 digits).map Int.ofNat, format.drop digits.length)

def directiveAt (format : Chars) : Printer (Directive × Chars) := do
  let flags := format.takeWhile fun c => "#'-+ 0".toList.contains c
  let (width, rest) ← sizeAt (format.drop flags.length)
  let width := width.getD 0
  let flags := if width < 0 then '-' :: flags else flags
  match rest with
  | '.' :: rest =>
    let isNegative := rest.head? == some '-'
    let (precision, rest) ← sizeAt (if isNegative then rest.drop 1 else rest)
    let precision := precision.getD 0
    return (⟨flags, width.natAbs, if isNegative ∨ precision < 0 then none else some precision.toNat⟩, rest)
  | rest => return (⟨flags, width.natAbs, none⟩, rest)

def showNext (d : Directive) (kind : Char) : Printer Unit := do
  match kind with
  | 's' => put (d.pad (d.cut ((← nextArgument).getD [])))
  | 'c' => put (d.pad (((← nextArgument).getD []).head?.getD '\x00' :: []))
  | 'b' =>
    let (text, goesOn) := Escape.replace .argument ((← nextArgument).getD [])
    put (d.pad (d.cut text))
    unless goesOn do stop
  | 'q' | 'Q' => put (d.pad (d.cut (Quote.withBackslashes ((← nextArgument).getD []))))
  | 'd' | 'i' => put (d.showSigned (← nextSigned))
  | 'u' | 'o' | 'x' | 'X' => put (d.showUnsigned kind (← nextUnsigned))
  | 'f' | 'F' | 'e' | 'E' | 'g' | 'G' => put (d.showReal kind (← nextReal))
  | kind =>
    complain true ("\x60".toList ++ kind :: "': invalid format character".toList)
    stop

def printOnce : Nat → Chars → Printer Unit
  | 0, _ => return ()
  | _ + 1, [] => return ()
  | n + 1, '\\' :: format =>
    match Escape.find? .format format with
    | some found => do
      put found.text
      printOnce n (format.drop found.width)
    | none => do
      put ['\\']
      printOnce n format
  | n + 1, '%' :: '%' :: format => do
    put ['%']
    printOnce n format
  | n + 1, '%' :: format => do
    let (d, rest) ← directiveAt format
    match rest.dropWhile fun c => "hjlLtz".toList.contains c with
    | [] =>
      complain true ("\x60".toList ++ '%' :: format ++ "': missing format character".toList)
      stop
    | kind :: rest =>
      showNext d kind
      unless (← get).stopped do printOnce n rest
  | n + 1, c :: format => do
    put [c]
    printOnce n format

def printAll (format : Chars) : Nat → Printer Unit
  | 0 => return ()
  | n + 1 => do
    let before := (← get).arguments.length
    printOnce (format.length + 1) format
    let after ← get
    unless after.stopped ∨ after.arguments = [] ∨ after.arguments.length = before do printAll format n

def print (format : Chars) (arguments : List Chars) : Printing :=
  (printAll format (arguments.length + 1) ⟨arguments, [], [], false, false⟩).2

end WorkflowScript.Shell.Format
