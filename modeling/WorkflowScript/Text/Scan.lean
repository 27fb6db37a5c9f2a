import WorkflowScript.Text.Blank

namespace WorkflowScript.Text

def upTo (text rest : List Char) : List Char := text.take (text.length - rest.length)

def afterLiteral? : List Char → List Char → Option (List Char)
  | [], text => some text
  | _ :: _, [] => none
  | l :: literal, c :: text => if l = c then afterLiteral? literal text else none

theorem afterLiteral?_eq_some_iff {literal text rest : List Char} :
    afterLiteral? literal text = some rest ↔ text = literal ++ rest := by
  induction literal generalizing text with
  | nil => simp [afterLiteral?]
  | cons l literal ih =>
    cases text with
    | nil => simp [afterLiteral?]
    | cons c text =>
      by_cases h : l = c
      · simp [afterLiteral?, h, ih]
      · simp [afterLiteral?, h, Ne.symm h]

structure Occurrence where
  whole : List Char
  groups : List (List Char)
  deriving DecidableEq, Repr

abbrev Recogniser := List Char → Option Occurrence

inductive Piece where
  | plain (c : Char)
  | occurrence (o : Occurrence)
  deriving DecidableEq, Repr

def pieces (recognise : Recogniser) : List Char → List Piece
  | [] => []
  | c :: text =>
    match recognise (c :: text) with
    | some o => .occurrence o :: pieces recognise (text.drop (o.whole.length - 1))
    | none => .plain c :: pieces recognise text
termination_by text => text.length
decreasing_by all_goals simp; try omega

def Piece.occurrence? : Piece → Option Occurrence
  | .plain _ => none
  | .occurrence o => some o

def occurrences (recognise : Recogniser) (text : List Char) : List Occurrence :=
  (pieces recognise text).filterMap Piece.occurrence?

def Piece.substitute (value : Occurrence → List Char) : Piece → List Char
  | .plain c => [c]
  | .occurrence o => value o

def replaceAll (recognise : Recogniser) (value : Occurrence → List Char) (text : List Char) :
    List Char :=
  (pieces recognise text).flatMap (Piece.substitute value)

def cutAt (literal : List Char) (text : List Char) : List (List Char) :=
  let found : Recogniser := fun t => (afterLiteral? literal t).map fun _ => ⟨literal, []⟩
  (pieces found text).foldr
    (fun piece parts =>
      match piece, parts with
      | .plain c, part :: parts => (c :: part) :: parts
      | .plain c, [] => [[c]]
      | .occurrence _, parts => [] :: parts)
    [[]]

theorem pieces_nil (recognise : Recogniser) : pieces recognise [] = [] := by
  rw [pieces]

theorem replaceAll_nil (recognise : Recogniser) (value : Occurrence → List Char) :
    replaceAll recognise value [] = [] := by
  rw [replaceAll, pieces_nil]; rfl

end WorkflowScript.Text
