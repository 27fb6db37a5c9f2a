import WorkflowScript.Script.Target
import WorkflowScript.Template.Bindings
import WorkflowScript.Text.Scan

namespace WorkflowScript.Script

structure Options where
  target : Target
  onceOnly : Bool
  failFast : Bool
  deriving DecidableEq, Repr

def Options.forTarget (target : Target) : Options := ⟨target, false, true⟩

def ruleWidth : Nat := 76

def rule (c : Char) : String := "echo " ++ .ofList (List.replicate ruleWidth c)

inductive Body where
  | steps (fragments : List (List String))
  | unsupported (label : String)
  deriving DecidableEq, Repr

def Body.lines : Body → List String
  | .steps fragments => fragments.flatten
  | .unsupported label => ["echo Unsupported runner: " ++ label]

structure Section where
  title : String
  body : Body
  deriving DecidableEq, Repr

namespace Section

def banner (title : String) : List String := ["", "", rule '-', "echo " ++ title, rule '-', ""]

def lines (part : Section) : List String := banner part.title ++ part.body.lines

end Section

structure JobBlock where
  job : String
  count : Nat
  sections : List Section
  deriving DecidableEq, Repr

namespace JobBlock

def banner (job : String) (count : Nat) : List String :=
  ["", "", rule '=', "echo job '" ++ job ++ "': matrix count=" ++ toString count, rule '=']

def lines (block : JobBlock) : List String :=
  banner block.job block.count ++ block.sections.flatMap Section.lines

end JobBlock

def preamble (options : Options) : List String :=
  match options.target with
  | .batch => ["@ECHO OFF", ""]
  | .shell => if options.failFast then ["set -e", ""] else []

def inputLine (entry : String × Input) : String := "echo   " ++ entry.1 ++ "=" ++ entry.2.text

def inputLines (inputs : InputTable) : List String :=
  if inputs.isEmpty then [] else "echo inputs:" :: inputs.sorted.map inputLine

def errorStatus : Nat := 310

def footer : Target → List String
  | .shell => []
  | .batch =>
    ["", "", "GOTO :EOF", "", ":ERROR", "  ECHO.", "  ECHO ======= ERROR OCCURRED =======", "  ECHO.",
      "  EXIT " ++ toString errorStatus]

end Script

structure Script where
  options : Script.Options
  inputs : InputTable
  blocks : List Script.JobBlock

namespace Script

def lines (script : Script) : List String :=
  preamble script.options ++ inputLines script.inputs ++ script.blocks.flatMap JobBlock.lines ++
    footer script.options.target

def body (script : Script) : String :=
  script.options.target.lineEnding.intercalate script.lines

def readLines (script : Script) : List (List Char) :=
  Text.cutAt script.options.target.lineEnding.toList script.body.toList

end Script

end WorkflowScript
