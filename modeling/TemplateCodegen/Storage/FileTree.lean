import TemplateCodegen.Storage.Access

/-!
# Trees of files

A file system in memory: the directories and files below a root, each under the list of its names
from the root on, and a working directory. A path is walked name by name; every name but the last
has to lead to a directory. There are no links.
-/

namespace TemplateCodegen.Storage

/-- A tree of files. -/
structure FileTree where
  /-- The working directory. -/
  workingDirectory : List String
  /-- The directories besides the root. -/
  directories : List (List String)
  /-- The files with their texts. -/
  files : List (List String × String)
deriving DecidableEq, Repr

/-- The longest name, in bytes. -/
def nameLimit : Nat := 255

/-- The number of bytes from which on a path is too long. -/
def pathLimit : Nat := 4096

namespace FileTree

/-- A tree with a working directory below the root and nothing in it. -/
def ofWorkingDirectory (name : String) : FileTree := ⟨[name], [[name]], []⟩

/-- Whether a place is a directory. -/
def hasDirectory (tree : FileTree) (place : List String) : Bool :=
  place.isEmpty || tree.directories.contains place

/-- The text of the file at a place. -/
def fileAt? (tree : FileTree) (place : List String) : Option String := tree.files.lookup place

/-- Whether there is a file at a place. -/
def hasFile (tree : FileTree) (place : List String) : Bool := (tree.fileAt? place).isSome

/-- Walk from a directory through names that have to lead to directories. -/
def walk (tree : FileTree) : List String → List String → Except FileError (List String)
  | place, [] => .ok place
  | place, "." :: rest => tree.walk place rest
  | place, ".." :: rest => tree.walk place.dropLast rest
  | place, name :: rest =>
    if nameLimit < name.utf8ByteSize then .error .nameTooLong
    else
      let next := place ++ [name]
      if tree.hasDirectory next then tree.walk next rest
      else if tree.hasFile next then .error .notDirectory
      else .error .notFound

/-- Where a path begins. -/
def origin (tree : FileTree) (path : String) : List String :=
  if isAbsolutePath path then [] else tree.workingDirectory

/-- What the last name of a path asks for. -/
inductive Target where
  /-- The name of an entry of a directory. -/
  | entry (directory : List String) (name : String)
  /-- A directory that the path names without a name of its own. -/
  | directory (place : List String)
deriving DecidableEq, Repr

/-- Walk a path up to its last name. -/
def target (tree : FileTree) (path : String) : Except FileError Target := do
  if path.toList.contains '\x00' then throw .nulInPath
  if path = "" then throw .notFound
  if pathLimit ≤ path.utf8ByteSize then throw .nameTooLong
  let names := components path
  let directory ← tree.walk (tree.origin path) names.dropLast
  match names.getLast? with
  | none => return .directory directory
  | some "." => return .directory directory
  | some ".." => return .directory directory.dropLast
  | some name => return .entry directory name

/-- Whether a path ends in a slash. -/
def endsInSlash (path : String) : Bool := path.toList.getLast? == some '/'

/-- The place of an entry, whose name must not be too long. -/
def entryPlace (directory : List String) (name : String) : Except FileError (List String) :=
  if nameLimit < name.utf8ByteSize then .error .nameTooLong else .ok (directory ++ [name])

/-- The text of a file. -/
def read (tree : FileTree) (path : String) : Except FileError String := do
  match ← tree.target path with
  | .directory _ => throw .isDirectory
  | .entry directory name =>
    let place ← entryPlace directory name
    match tree.fileAt? place with
    | some text => if endsInSlash path then throw .notDirectory else return text
    | none => throw (if tree.hasDirectory place then .isDirectory else .notFound)

/-- Put a text into a file. A path that ends in a slash never names a file that could be made. -/
def write (tree : FileTree) (path text : String) : Except FileError FileTree := do
  match ← tree.target path with
  | .directory _ => throw .isDirectory
  | .entry directory name =>
    if endsInSlash path then throw .isDirectory
    let place ← entryPlace directory name
    if tree.hasDirectory place then throw .isDirectory
    return { tree with files := tree.files.filter (·.1 != place) ++ [(place, text)] }

/-- Make one directory. -/
def makeDirectory (tree : FileTree) (path : String) : Except FileError FileTree := do
  match ← tree.target path with
  | .directory _ => throw .alreadyExists
  | .entry directory name =>
    let place ← entryPlace directory name
    if tree.hasDirectory place || tree.hasFile place then throw .alreadyExists
    return { tree with directories := tree.directories ++ [place] }

/-- Whether a path names a directory. -/
def namesDirectory (tree : FileTree) (path : String) : Bool :=
  match tree.target path with
  | .ok (.directory _) => true
  | .ok (.entry directory name) => tree.hasDirectory (directory ++ [name])
  | .error _ => false

/-- The tree with a file below the working directory and the directories above it, whatever was
there. -/
def addFile (tree : FileTree) (name text : String) : FileTree :=
  let place := tree.workingDirectory ++ components name
  let above := (List.range place.length).map place.take
  { tree with
    directories := tree.directories ++ above.filter fun directory => !tree.hasDirectory directory
    files := tree.files.filter (·.1 != place) ++ [(place, text)] }

/-- The files below a directory with their paths from there. -/
def filesBelow (tree : FileTree) (directory : List String) : List (String × String) :=
  tree.files.filterMap fun (place, text) =>
    if directory.isPrefixOf place then
      some ("/".intercalate (place.drop directory.length), text)
    else none

/-- A tree after an operation on it, which is the old one when the operation has failed. -/
def changed (tree : FileTree) : Except FileError FileTree → Except FileError Unit × FileTree
  | .ok next => (.ok (), next)
  | .error error => (.error error, tree)

/-- The operations on a tree that is kept as a state. -/
def access : FileAccess (StateM FileTree) where
  read path := fun tree => (tree.read path, tree)
  makeDirectory path := fun tree => changed tree (tree.makeDirectory path)
  isDirectory path := fun tree => (tree.namesDirectory path, tree)
  write path text := fun tree => changed tree (tree.write path text)

end FileTree

end TemplateCodegen.Storage
