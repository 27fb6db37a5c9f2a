import WorkflowScript.Script.Line

namespace WorkflowScript.Fragment

def physicalLines (text : List Char) : List (List Char) :=
  (text.splitOn '\n').map fun line => if line.getLast? = some '\r' then line.dropLast else line

def transformLines (target : Target) (bindings : Bindings) :
    Line.Continuing → List (List Char) → Except CompileError (List String)
  | _, [] => .ok []
  | continuing, line :: lines => do
    let (emitted, continuing) ← Line.transform target bindings continuing line
    let rest ← transformLines target bindings continuing lines
    return emitted.toLines ++ rest

def transform (target : Target) (bindings : Bindings) (text : String) :
    Except CompileError (List String) :=
  transformLines target bindings false (physicalLines text.toList)

def isBlankLine (line : String) : Bool := Text.allBlank line.toList

def dropBlankEnd : List String → List String
  | [] => []
  | line :: lines =>
    match dropBlankEnd lines with
    | [] => if isBlankLine line then [] else [line]
    | kept => line :: kept

def trimLastLine : List String → List String
  | [] => []
  | [line] => [.ofList (Text.trimEnd line.toList)]
  | line :: lines => line :: trimLastLine lines

def trimBlock (lines : List String) : List String :=
  match dropBlankEnd (lines.dropWhile isBlankLine) with
  | [] => [""]
  | line :: lines => trimLastLine (.ofList (Text.trimStart line.toList) :: lines)

end WorkflowScript.Fragment
