import WorkflowScript.Shell.Pattern
import WorkflowScript.Shell.State

namespace WorkflowScript.Shell.Glob

def namesAt (files : FileTree) (place : Location) : List String :=
  files.entries.filterMap fun e =>
    if e.1.length = place.length + 1 ∧ place.isPrefixOf e.1 = true then e.1.getLast? else none

def beforeOrSame (a b : Chars) : Bool := !decide (b < a)

def sorted (texts : List Chars) : List Chars := texts.mergeSort beforeOrSame

def matching (groups hidden ignoreCase : Bool) (pattern : List Marked) (names : List Chars) : List Chars :=
  let parts := Pattern.ofMarked groups pattern
  let wantsDot := pattern.head?.any fun m => m.char == '.'
  names.filter fun name =>
    (hidden || wantsDot || name.head? != some '.') && Pattern.matchesAll ignoreCase parts name

def isSlash (m : Marked) : Bool := m.char == '/'

structure Settings where
  groups : Bool
  hidden : Bool
  ignoreCase : Bool

def follow (settings : Settings) (files : FileTree) : List (List Marked) → List Chars → List Chars
  | [], paths => paths
  | pattern :: rest, paths =>
    let isLast := rest.isEmpty
    let next (path : Chars) : List Chars :=
      if pattern.isEmpty then (if isLast then [path] else [path ++ ['/']])
      else
        let found :=
          if Pattern.isPattern pattern then
            let directory := if path.isEmpty then "." else toPath path
            match files.at? directory, files.locate directory with
            | some .directory, .ok place =>
              (matching settings.groups settings.hidden settings.ignoreCase pattern
                ((namesAt files place).map ofString)).map (path ++ ·)
            | _, _ => []
          else [path ++ pattern.map Marked.char]
        if isLast then found.filter fun path => files.exists? (toPath path)
        else (found.filter fun path => files.isDirectory (toPath path)).map (· ++ ['/'])
    follow settings files rest (paths.flatMap next)

def paths (settings : Settings) (files : FileTree) (pattern : List Marked) : List Chars :=
  sorted (follow settings files (pattern.splitOnP isSlash) [[]])

end WorkflowScript.Shell.Glob
