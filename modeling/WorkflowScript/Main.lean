import WorkflowScript.Command.Session

namespace WorkflowScript.Program

def pathOf (place : Location) : String := "/" ++ "/".intercalate place

def addFound : Nat → String → FileTree → IO FileTree
  | 0, _, tree => return tree
  | depth + 1, path, tree => do
    let found ← (do
      let place := (← IO.currentDir) / path
      match (← place.metadata).type with
      | .dir =>
        (← place.readDir).foldlM (fun tree (e : IO.FS.DirEntry) => addFound depth (Path.join path e.fileName) tree)
          (tree.add path .directory)
      | .file =>
        return tree.add path (.file (.ofBytes (← IO.FS.readBinFile place).data.toList))
      | _ => return tree).toBaseIO
    match found with
    | .ok tree => return tree
    | .error _ => return tree

def deepest : Nat := 5

def isHidden (name : String) : Bool := name.toList.head? == some '.'

def namesToFind (request : Request) : IO (List String) := do
  match request.action with
  | .run _ _ =>
    let found := (← (← IO.currentDir).readDir).toList.map IO.FS.DirEntry.fileName
    return ".github" :: found.filter fun name => !isHidden name
  | _ => return [".github"]

def findTree (names : List String) : IO FileTree := do
  let tree := FileTree.standard.enter (← IO.currentDir).toString
  names.foldlM (fun tree name => addFound deepest name tree) tree

def environmentFile : String := "/proc/self/environ"

def variableOf (text : List Char) : String × String :=
  let (name, value) := text.span (· != '=')
  (.ofList name, .ofList (value.drop 1))

def knownNames : List String := Arguments.ambientFilter :: "PATH" :: "HOME" :: Flag.all.filterMap Flag.setting?

def findKnown : IO Environment := do
  let found ← knownNames.mapM fun name => do
    return (← IO.getEnv name).map fun value => (name, value)
  return found.filterMap id

def findEnvironment : IO Environment := do
  match ← (IO.FS.readBinFile environmentFile).toBaseIO with
  | .error _ => findKnown
  | .ok bytes =>
    let parts := (Text.Utf8.decodeLossy bytes.data.toList).splitOn '\x00'
    return (parts.filter (· != [])).map variableOf

def carryOutAt (place : Location) : FileEntry → IO Unit
  | .file content => IO.FS.writeBinFile (pathOf place) ⟨content.toBytes.toArray⟩
  | .directory => IO.FS.createDirAll (pathOf place)
  | .sink => return ()

def remove (place : Location) : FileEntry → IO Unit
  | .file _ => IO.FS.removeFile (pathOf place)
  | .directory => IO.FS.removeDir (pathOf place)
  | .sink => return ()

def carryOut (before after : FileTree) : IO Unit := do
  let inside := FileTree.isBelow before.here
  for (place, entry) in before.entries.reverse do
    if inside place && after.entry? place = none then remove place entry
  for (place, entry) in after.entries do
    if inside place && before.entry? place != some entry then carryOutAt place entry

def scriptPath : String := "script.sh"

def waitingInput : IO String := do
  let input ← IO.getStdin
  if ← input.isTty then return ""
  return .ofList (Text.Utf8.decodeLossy (← input.readBinToEnd).data.toList)

def answered (action : Action) (start : String → Session.Outcome) : IO Session.Outcome := do
  let outcome := start ""
  match outcome.question, action with
  | some question, _ =>
    IO.print question
    (← IO.getStdout).flush
    let outcome := start (← (← IO.getStdin).getLine)
    return { outcome with output := (outcome.output.drop question.length).toString }
  | none, .run _ _ =>
    let input ← waitingInput
    return if input.isEmpty then outcome else start input
  | none, _ => return outcome

def finish (tree : FileTree) (outcome : Session.Outcome) : IO UInt32 := do
  carryOut tree outcome.tree
  IO.print outcome.output
  IO.eprint outcome.errorText
  for _ in [0:outcome.seconds] do IO.sleep 1000
  return outcome.status.toUInt32

def run (arguments : List String) : IO UInt32 := do
  let environment ← findEnvironment
  match Request.ofArguments environment arguments with
  | .error stop => finish .empty (.ofStop .empty stop)
  | .ok request =>
    let tree ← findTree (← namesToFind request)
    finish tree (← answered request.action fun input =>
      Session.start scriptPath environment arguments input tree)

end WorkflowScript.Program

def main (arguments : List String) : IO UInt32 := WorkflowScript.Program.run arguments
