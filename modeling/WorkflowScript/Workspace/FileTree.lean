import WorkflowScript.Text.Utf8

namespace WorkflowScript

inductive FileFault where
  | notFound
  | fileExists
  | notDirectory
  | isDirectory
  | nameTooLong
  | notText
  deriving DecidableEq, Repr

def FileFault.message : FileFault → String
  | .notFound => "No such file or directory (os error 2)"
  | .fileExists => "File exists (os error 17)"
  | .notDirectory => "Not a directory (os error 20)"
  | .isDirectory => "Is a directory (os error 21)"
  | .nameTooLong => "File name too long (os error 36)"
  | .notText => "stream did not contain valid UTF-8"

inductive Content where
  | text (text : String)
  | bytes (bytes : List UInt8)
  deriving DecidableEq, Repr

namespace Content

def empty : Content := .text ""

def ofBytes (bytes : Text.Utf8.Bytes) : Content :=
  match Text.Utf8.decode? bytes with
  | some chars => .text (.ofList chars)
  | none => .bytes bytes

def toBytes : Content → Text.Utf8.Bytes
  | .text string => Text.Utf8.encode string.toList
  | .bytes octets => octets

def shown : Content → String
  | .text string => string
  | .bytes octets => .ofList (Text.Utf8.decodeLossy octets)

end Content

abbrev Location := List String

inductive FileEntry where
  | file (content : Content)
  | directory
  | sink
  deriving DecidableEq, Repr

namespace Path

def names (path : String) : List String :=
  let parts := (path.toList.splitOn '/').map String.ofList
  let kept := parts.filter (· != "")
  if parts.getLast? = some "" then kept ++ ["."] else kept

def join (base name : String) : String :=
  if name.toList.head? = some '/' ∨ base = "" then name
  else if base.toList.getLast? = some '/' then base ++ name
  else base ++ "/" ++ name

def fileName (path : String) : String :=
  match (path.toList.splitOn '/').getLast? with
  | some name => .ofList name
  | none => path

end Path

def longestName : Nat := 255

def longestPath : Nat := 4095

structure FileTree where
  entries : List (Location × FileEntry)
  here : Location
  deriving DecidableEq, Repr

namespace FileTree

def empty : FileTree := ⟨[], []⟩

def entry? (tree : FileTree) (place : Location) : Option FileEntry :=
  if place = [] then some .directory
  else (tree.entries.find? (·.1 == place)).map Prod.snd

def set (place : Location) (entry : FileEntry) (tree : FileTree) : FileTree :=
  match tree.entry? place with
  | none => { tree with entries := tree.entries ++ [(place, entry)] }
  | some _ =>
    { tree with entries := tree.entries.map fun e => if e.1 = place then (place, entry) else e }

def origin (tree : FileTree) (path : String) : Location :=
  if path.toList.head? = some '/' then [] else tree.here

def walk (tree : FileTree) (place : Location) : List String → Except FileFault Location
  | [] => .ok place
  | name :: names =>
    if name = "." then walk tree place names
    else if name = ".." then walk tree place.dropLast names
    else if name.utf8ByteSize > longestName then .error .nameTooLong
    else
      let inner := place ++ [name]
      match names, tree.entry? inner with
      | [], _ => .ok inner
      | names, some .directory => walk tree inner names
      | _, some _ => .error .notDirectory
      | _, none => .error .notFound

def locate (tree : FileTree) (path : String) : Except FileFault Location :=
  if path = "" then .error .notFound
  else if path.utf8ByteSize > longestPath then .error .nameTooLong
  else tree.walk (tree.origin path) (Path.names path)

def at? (tree : FileTree) (path : String) : Option FileEntry :=
  match tree.locate path with
  | .ok place => tree.entry? place
  | .error _ => none

def exists? (tree : FileTree) (path : String) : Bool := (tree.at? path).isSome

def isFile (tree : FileTree) (path : String) : Bool :=
  match tree.at? path with
  | some (.file _) => true
  | _ => false

def isDirectory (tree : FileTree) (path : String) : Bool := tree.at? path == some .directory

def read (tree : FileTree) (path : String) : Except FileFault Content :=
  match tree.locate path with
  | .error fault => .error fault
  | .ok place =>
    match tree.entry? place with
    | none => .error .notFound
    | some .directory => .error .isDirectory
    | some (.file content) => .ok content
    | some .sink => .ok .empty

def readText (tree : FileTree) (path : String) : Except FileFault String :=
  match tree.read path with
  | .error fault => .error fault
  | .ok (.bytes _) => .error .notText
  | .ok (.text text) => .ok text

def write (tree : FileTree) (path : String) (content : Content) : Except FileFault FileTree :=
  match tree.locate path with
  | .error fault => .error fault
  | .ok place =>
    match tree.entry? place with
    | some .directory => .error .isDirectory
    | some .sink => .ok tree
    | _ => .ok (tree.set place (.file content))

def makeFrom (tree : FileTree) (place : Location) : List String → Except FileFault FileTree
  | [] => .ok tree
  | name :: names =>
    if name = "." then makeFrom tree place names
    else if name = ".." then makeFrom tree place.dropLast names
    else if name.utf8ByteSize > longestName then .error .nameTooLong
    else
      let inner := place ++ [name]
      match tree.entry? inner with
      | some .directory => makeFrom tree inner names
      | some _ => .error (if names.isEmpty then .fileExists else .notDirectory)
      | none => makeFrom (tree.set inner .directory) inner names

def makeDirectories (tree : FileTree) (path : String) : Except FileFault FileTree :=
  tree.makeFrom (tree.origin path) (Path.names path)

def add (tree : FileTree) (path : String) (entry : FileEntry) : FileTree :=
  let names := Path.names path
  let added := do
    let made ← tree.makeFrom (tree.origin path) names.dropLast
    return made.set (← made.walk (tree.origin path) names) entry
  match added with
  | .ok tree => tree
  | .error _ => tree

def enter (tree : FileTree) (path : String) : FileTree :=
  let tree := tree.add path .directory
  match tree.locate path with
  | .ok place => { tree with here := place }
  | .error _ => tree

def standard : FileTree :=
  [("/dev/null", FileEntry.sink), ("/etc/passwd", .file (.text "root:x:0:0:root:/root:/bin/bash\n")),
    ("/root", .directory), ("/tmp", .directory), ("/usr/bin", .directory), ("/usr/lib", .directory),
    ("/var/tmp", .directory)].foldl (fun tree e => tree.add e.1 e.2) empty

def isBelow (directory place : Location) : Bool := directory.isPrefixOf place && directory != place

def filesBelow (tree : FileTree) (directory : Location) : List (String × Content) :=
  let found := tree.entries.filterMap fun e =>
    match e.2 with
    | .file content =>
      if isBelow (tree.here ++ directory) e.1 then
        some ("/".intercalate (e.1.drop tree.here.length), content)
      else none
    | _ => none
  found.mergeSort fun a b => !decide (b.1 < a.1)

end FileTree

end WorkflowScript
