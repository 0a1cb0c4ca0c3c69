import TemplateCodegen.CommandLine.Basic

/-!
# The program

The command on the real file system.
-/

namespace TemplateCodegen

open Storage

/-- The number that the system has for a failure, where it has one. -/
def systemCode? : IO.Error → Option UInt32
  | .alreadyExists _ code _ | .noFileOrDirectory _ code _ | .inappropriateType _ code _
  | .invalidArgument _ code _ | .illegalOperation code _ | .otherError code _
  | .permissionDenied _ code _ | .resourceExhausted _ code _ => some code
  | _ => none

/-- A failure of the system as a failure of a file operation. -/
def fileErrorOf (error : IO.Error) : FileError :=
  match systemCode? error with
  | some 2 => .notFound
  | some 17 => .alreadyExists
  | some 20 => .notDirectory
  | some 21 => .isDirectory
  | some 36 => .nameTooLong
  | _ => .other error.toString

/-- Do an operation, with its failure as a value. -/
def attempt {α : Type} (operation : IO α) : IO (Except FileError α) := do
  try
    return .ok (← operation)
  catch error =>
    return .error (fileErrorOf error)

/-- The operations on the files of the system. -/
def systemFiles : FileAccess IO where
  read path := do
    match ← attempt (IO.FS.withFile path .read fun handle => handle.readBinToEnd) with
    | .error error => return .error error
    | .ok bytes =>
      match String.fromUTF8? bytes with
      | some text => return .ok text
      | none => return .error .notText
  makeDirectory path := attempt (IO.FS.createDir path)
  isDirectory path := return (← attempt (IO.FS.realPath (path ++ "/."))) matches .ok _
  write path text := attempt (IO.FS.writeFile path text)

end TemplateCodegen

/-- Run the command with the given arguments. -/
def main (arguments : List String) : IO UInt32 := do
  let outcome ← TemplateCodegen.CommandLine.run TemplateCodegen.systemFiles arguments
  IO.eprint outcome.shown
  IO.print outcome.printed
  return outcome.code.toUInt32
