import WorkflowScript.Shell.Word

namespace WorkflowScript.Shell

inductive RedirectKind where
  | input
  | output
  | append
  | overwrite
  | inputOutput
  | duplicate (isInput : Bool)
  | both (appending : Bool)
  | document
  | string
  deriving DecidableEq, Repr

structure Redirect where
  descriptor : Option Nat
  kind : RedirectKind
  target : Word

inductive AssignedValue where
  | word (word : Word)
  | items (items : List (Option Word × Word))

structure Assignment where
  name : Chars
  subscript : Option Word
  appending : Bool
  value : AssignedValue

inductive Argument where
  | word (word : Word)
  | assignment (assignment : Assignment)

inductive Condition where
  | word (word : Word)
  | unary (operator : Chars) (operand : Word)
  | binary (operator : Chars) (left right : Word)
  | negation (condition : Condition)
  | both (left right : Condition)
  | either (left right : Condition)

inductive ClauseEnd where
  | leave
  | fallThrough
  | testNext
  deriving DecidableEq, Repr

inductive Command where
  | nothing
  | simple (line : Nat) (assignments : List Assignment) (arguments : List Argument)
      (redirects : List Redirect)
  | group (body : Command)
  | subshell (body : Command)
  | branch (condition body : Command) (otherwise : Command)
  | loop (isUntil : Bool) (condition body : Command)
  | forEach (name : Chars) (words : Option (List Word)) (body : Command)
  | forCount (start test step : Word) (body : Command)
  | select (name : Chars) (words : Option (List Word)) (body : Command)
  | choose (word : Word) (clauses : List (List Word × Command × ClauseEnd))
  | condition (line : Nat) (condition : Condition)
  | arithmetic (line : Nat) (expression : Word)
  | define (name : Chars) (body : Command)
  | redirected (body : Command) (redirects : List Redirect)
  | pipeline (negated : Bool) (stages : List (Command × Bool))
  | andThen (left right : Command)
  | orElse (left right : Command)
  | sequence (left right : Command)
  | background (body : Command)
  | partner (body : Command)

instance : Inhabited Command := ⟨.nothing⟩

end WorkflowScript.Shell
