import WorkflowScript.Main
import WorkflowScript.Shell.Words
import WorkflowScript.Proofs.Document.Cut
import WorkflowScript.Proofs.Document.Kind
import WorkflowScript.Proofs.Document.Replace
import WorkflowScript.Proofs.Fragment.Run
import WorkflowScript.Proofs.Line.Cases
import WorkflowScript.Proofs.Line.Dollar
import WorkflowScript.Proofs.Line.Rewrite
import WorkflowScript.Proofs.Line.Targets
import WorkflowScript.Proofs.Line.Transform
import WorkflowScript.Proofs.Matrix.Expansion
import WorkflowScript.Proofs.Matrix.Legs
import WorkflowScript.Proofs.Matrix.Product
import WorkflowScript.Proofs.Outcome
import WorkflowScript.Proofs.Script.Expressions
import WorkflowScript.Proofs.Script.Jobs
import WorkflowScript.Proofs.Script.Legs
import WorkflowScript.Proofs.Script.Once
import WorkflowScript.Proofs.Script.Sections
import WorkflowScript.Proofs.Script.StepLines
import WorkflowScript.Proofs.Script.Success
import WorkflowScript.Proofs.Script.Targets
import WorkflowScript.Proofs.Template.Bound
import WorkflowScript.Proofs.Template.Expression
import WorkflowScript.Proofs.Template.Grammar
import WorkflowScript.Proofs.Template.Sites
import WorkflowScript.Proofs.Template.Substitution
import WorkflowScript.Proofs.Template.Value
import WorkflowScript.Proofs.Text.Blank
import WorkflowScript.Proofs.Workflow.Declared
import WorkflowScript.Proofs.Workflow.Runner
import WorkflowScript.Proofs.Workflow.Steps
import WorkflowScript.Proofs.Fragment.Block
import WorkflowScript.Proofs.Fragment.Commands
import WorkflowScript.Proofs.Fragment.Dispatch
import WorkflowScript.Proofs.Script.Sources
import WorkflowScript.Proofs.Script.BatchCommands
import WorkflowScript.Proofs.Line.LineFeed
import WorkflowScript.Proofs.Text.Cut
import WorkflowScript.Proofs.Script.LineFeeds
import WorkflowScript.Proofs.Line.Plain
import WorkflowScript.Proofs.Fragment.ShellCommands
import WorkflowScript.Proofs.Document.Untagged
import WorkflowScript.Proofs.NameTable.Inserts
import WorkflowScript.Proofs.Script.Congruence
import WorkflowScript.Proofs.Script.Tags
import WorkflowScript.Proofs.Document.Change
import WorkflowScript.Proofs.Workflow.RunTexts
import WorkflowScript.Proofs.Script.Unsupported
import WorkflowScript.Proofs.Workspace.FileTree
import WorkflowScript.Proofs.Command.Session
import WorkflowScript.Proofs.Workspace.Scaffold
import WorkflowScript.Proofs.Command.Scaffold
import WorkflowScript.Proofs.Fragment.Append
import WorkflowScript.Proofs.Line.States
import WorkflowScript.Proofs.Line.Source
import WorkflowScript.Proofs.Fragment.Restyle
import WorkflowScript.Proofs.Line.Guard
import WorkflowScript.Proofs.Yaml.Cursor
import WorkflowScript.Proofs.Yaml.Plain
import WorkflowScript.Proofs.Yaml.Literal
import WorkflowScript.Proofs.Yaml.Lexer
import WorkflowScript.Proofs.Yaml.Build
import WorkflowScript.Proofs.Yaml.Ordinary
import WorkflowScript.Proofs.Workspace.Starter
import WorkflowScript.Proofs.Workspace.Names
import WorkflowScript.Proofs.Workflow.Starter
import WorkflowScript.Proofs.Command.Starter
import WorkflowScript.Proofs.Workflow.JobTable
import WorkflowScript.Proofs.Template.Scope
import WorkflowScript.Proofs.Workflow.Inputs
import WorkflowScript.Proofs.Line.Redirect
import WorkflowScript.Proofs.Line.Continuation
import WorkflowScript.Proofs.Text.Case
import WorkflowScript.Proofs.Line.Comment
import WorkflowScript.Proofs.Workspace.Resolution
import WorkflowScript.Proofs.Fragment.Trim
import WorkflowScript.Proofs.Text.Ascii
import WorkflowScript.Proofs.NameTable.Sorted
import WorkflowScript.Proofs.Template.Split
import WorkflowScript.Proofs.Line.Summary
import WorkflowScript.Proofs.Line.Backslash
import WorkflowScript.Proofs.Line.Paused
import WorkflowScript.Proofs.Shell.Words
import WorkflowScript.Proofs.Template.Captured
import WorkflowScript.Proofs.Script.Mounted
import WorkflowScript.Proofs.Workflow.Kinds
import WorkflowScript.Proofs.Text.Utf8
import WorkflowScript.Proofs.Shell.Reader
import WorkflowScript.Proofs.Shell.Written
import WorkflowScript.Proofs.Shell.Phrase
import WorkflowScript.Proofs.Shell.Line
import WorkflowScript.Proofs.Shell.Execution
import WorkflowScript.Proofs.Shell.Literal
import WorkflowScript.Proofs.Shell.Spelling
import WorkflowScript.Proofs.Shell.Run
import WorkflowScript.Proofs.Shell.Encoded
import WorkflowScript.Proofs.Shell.Spoken
import WorkflowScript.Proofs.Script.Spoken
import WorkflowScript.Proofs.Command.Spoken
import WorkflowScript.Proofs.Command.Greeting
import WorkflowScript.Proofs.Shell.Pattern
import WorkflowScript.Proofs.Shell.Sorting
import WorkflowScript.Proofs.Shell.Regex
import WorkflowScript.Proofs.Shell.Search
import WorkflowScript.Proofs.Shell.Lines
import WorkflowScript.Proofs.Shell.Quoted
import WorkflowScript.Proofs.Shell.Arithmetic
import WorkflowScript.Proofs.Shell.Evaluation
