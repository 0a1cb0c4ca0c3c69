import TemplateCodegen.Output.Fragment
import TemplateCodegen.Text.Segments

/-!
# Paths

Paths are texts whose components are separated by slashes. Nothing is normalised when two are
joined, so what a path names is decided only where it is used. An artifact is stored in an output
directory under its key and the configured extension.
-/

namespace TemplateCodegen

namespace Storage

/-- Whether a path begins at the root. -/
def isAbsolutePath (path : String) : Bool := path.toList.head? == some '/'

/-- A path behind a directory: an absolute one stands for itself, and any other follows behind one
slash, which an empty directory or one that ends in a slash does not need. -/
def joinPath (directory path : String) : String :=
  if isAbsolutePath path then path
  else if directory = "" ∨ directory.toList.getLast? = some '/' then directory ++ path
  else directory ++ "/" ++ path

/-- The components of a path, without empty ones. -/
def components (path : String) : List String :=
  ((Text.segments '/' path.toList).filter fun component => !component.isEmpty).map String.ofList

/-- The components by which a path is taken apart: a component that stands for the directory itself
counts only at the beginning of a relative path. -/
def significantComponents (path : String) : List String :=
  match components path with
  | [] => []
  | first :: rest =>
    let isKept := first != "." || !isAbsolutePath path
    (if isKept then [first] else []) ++ rest.filter (· != ".")

/-- The path above another one: without its last significant component. -/
def pathAbove (path : String) : String :=
  (if isAbsolutePath path then "/" else "") ++ "/".intercalate (significantComponents path).dropLast

/-- A join with an absolute path forgets the directory. -/
theorem joinPath_of_isAbsolutePath (directory : String) {path : String}
    (h : isAbsolutePath path = true) : joinPath directory path = path := by
  simp [joinPath, h]

end Storage

/-- Where artifacts are stored. -/
structure OutputDirectory where
  /-- The directory. -/
  directory : String
  /-- The extension of the files; dots in front of it do not count. -/
  fileExtension : String
deriving DecidableEq, Repr

namespace OutputDirectory

/-- The file name of a key: with no extension it is the key itself. -/
def fileName (output : OutputDirectory) (key : String) : String :=
  match output.fileExtension.toList.dropWhile (· == '.') with
  | [] => key
  | extension => key ++ "." ++ String.ofList extension

/-- The path of the file of a key. -/
def pathFor (output : OutputDirectory) (key : String) : String :=
  Storage.joinPath output.directory (output.fileName key)

end OutputDirectory

end TemplateCodegen
