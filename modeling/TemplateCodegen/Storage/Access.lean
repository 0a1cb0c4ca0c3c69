import TemplateCodegen.Storage.Path

/-!
# Access to files

What the program needs of a file system: whole files are read and written, and directories are
made, by themselves or together with those above them. The operations live in a monad of their own,
so the same program runs on real files and on a tree of files in memory.
-/

namespace TemplateCodegen

namespace Storage

/-- Why a file operation has failed. -/
inductive FileError where
  /-- Nothing has that name. -/
  | notFound
  /-- Something has that name already. -/
  | alreadyExists
  /-- A file stands where a directory is needed. -/
  | notDirectory
  /-- A directory stands where a file is needed. -/
  | isDirectory
  /-- A name or a whole path is too long. -/
  | nameTooLong
  /-- The path holds a NUL character. -/
  | nulInPath
  /-- The file is not in UTF-8. -/
  | notText
  /-- Another failure, as the system words it. -/
  | other (description : String)
deriving DecidableEq, Repr

/-- The text shown for a failure; those that the system has a number for show it. -/
def FileError.message : FileError → String
  | .notFound => "No such file or directory (os error 2)"
  | .alreadyExists => "File exists (os error 17)"
  | .notDirectory => "Not a directory (os error 20)"
  | .isDirectory => "Is a directory (os error 21)"
  | .nameTooLong => "File name too long (os error 36)"
  | .nulInPath => "file name contained an unexpected NUL byte"
  | .notText => "stream did not contain valid UTF-8"
  | .other description => description

/-- The operations on files. -/
structure FileAccess (m : Type → Type) where
  /-- The text of a file. -/
  read : String → m (Except FileError String)
  /-- Make one directory in a directory that is there. -/
  makeDirectory : String → m (Except FileError Unit)
  /-- Whether a path leads to a directory. -/
  isDirectory : String → m Bool
  /-- Put a text into a file, which is made if it is not there. -/
  write : String → String → m (Except FileError Unit)

namespace FileAccess

variable {m : Type → Type} [Monad m]

/-- The outcome of making a directory: a failure does not count when the directory is there. -/
def settle (files : FileAccess m) (path : String) :
    Except FileError Unit → m (Except FileError Unit)
  | .ok () => pure (.ok ())
  | .error error => do
    if ← files.isDirectory path then pure (.ok ()) else pure (.error error)

/-- Make a directory, and when its surroundings are missing, make those first and try it once more.
The rounds bound how far up the path is followed. -/
def makeDirectoriesFrom (files : FileAccess m) : Nat → String → m (Except FileError Unit)
  | 0, path => do files.settle path (← files.makeDirectory path)
  | rounds + 1, path => do
    if path = "" then return .ok ()
    match ← files.makeDirectory path with
    | .error .notFound =>
      match ← files.makeDirectoriesFrom rounds (pathAbove path) with
      | .error error => return .error error
      | .ok () => files.settle path (← files.makeDirectory path)
    | outcome => files.settle path outcome

/-- Make a directory and those above it, unless they are there. Those made before a failure remain.
Each step up takes away a component, so the number of components bounds the steps. -/
def makeDirectories (files : FileAccess m) (path : String) : m (Except FileError Unit) :=
  files.makeDirectoriesFrom ((components path).length + 1) path

end FileAccess

end Storage

/-- Store an artifact; the directory is made when it is needed. -/
def OutputDirectory.store {m : Type → Type} [Monad m] (output : OutputDirectory)
    (files : Storage.FileAccess m) (artifact : Artifact) : m (Except Storage.FileError Unit) := do
  match ← files.makeDirectories output.directory with
  | .error error => pure (.error error)
  | .ok () => files.write (output.pathFor artifact.key) artifact.content

end TemplateCodegen
