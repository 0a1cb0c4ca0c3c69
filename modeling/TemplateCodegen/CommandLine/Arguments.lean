/-!
# Arguments of the command line

The command takes the path of a manifest and a few options, in any order. A path may follow its
option as the next argument, behind an equals sign, or, for the short spelling, directly. Behind two
dashes every argument is a path. Options are given at most once, paths are not empty, and the first
argument that does not fit ends the reading, unless help has been asked for in front of it.
-/

namespace TemplateCodegen.CommandLine

/-- What the command is asked to do in a generation. -/
structure Arguments where
  /-- The path of the manifest. -/
  manifest : String
  /-- The path of the configuration, if one is given. -/
  config : Option String := none
  /-- The directory that artifacts are written to. -/
  output : String := "generated"
  /-- Whether diagnostics are reported without writing anything. -/
  isCheck : Bool := false
deriving DecidableEq, Repr

/-- What the command is asked to do. -/
inductive Request where
  /-- Explain the command. -/
  | help
  /-- Generate. -/
  | generate (arguments : Arguments)
deriving DecidableEq, Repr

/-- The options that take a path. -/
inductive PathOption where
  | config
  | output
deriving DecidableEq, Repr

/-- One argument by itself. -/
inductive Word where
  /-- Two dashes. -/
  | escape
  /-- The option that only reports. -/
  | check
  /-- The option that asks for help. -/
  | help
  /-- An option that takes a path, with the path when it is attached. -/
  | pathOption (option : PathOption) (attached : Option String)
  /-- A path. -/
  | path (text : String)
  /-- An option that there is not. -/
  | unknown
deriving DecidableEq, Repr

namespace Word

/-- A long option, given its name and the text behind an equals sign. -/
def ofLong (name : String) (attached : Option String) : Word :=
  match name, attached with
  | "config", attached => .pathOption .config attached
  | "output", attached => .pathOption .output attached
  | "check", none => .check
  | "help", none => .help
  | _, _ => .unknown

/-- The path that follows a short option directly. -/
def attachedPath? : List Char → Option String
  | [] => none
  | '=' :: rest => some (String.ofList rest)
  | c :: rest => some (String.ofList (c :: rest))

/-- What an argument is. A single dash is a path. -/
def ofText (text : String) : Word :=
  match text.toList with
  | ['-', '-'] => .escape
  | '-' :: '-' :: long =>
    let name := String.ofList (long.takeWhile (· != '='))
    match long.dropWhile (· != '=') with
    | [] => ofLong name none
    | _ :: attached => ofLong name (some (String.ofList attached))
  | ['-'] => .path "-"
  | '-' :: 'h' :: _ => .help
  | '-' :: 'c' :: attached => .pathOption .config (attachedPath? attached)
  | '-' :: 'o' :: attached => .pathOption .output (attachedPath? attached)
  | '-' :: _ => .unknown
  | _ => .path text

end Word

/-- What has been read so far. -/
structure Given where
  /-- The path of the manifest. -/
  manifest : Option String := none
  /-- The path of the configuration. -/
  config : Option String := none
  /-- The output directory. -/
  output : Option String := none
  /-- Whether only a report is asked for. -/
  isCheck : Bool := false
deriving DecidableEq, Repr

namespace Given

/-- A path in a place that has none; an empty path is refused. -/
def fill : Option String → String → Option (Option String)
  | none, path => if path = "" then none else some (some path)
  | some _, _ => none

/-- Give the manifest. -/
def addManifest (given : Given) (path : String) : Option Given :=
  (fill given.manifest path).map fun manifest => { given with manifest }

/-- Give an option its path. -/
def addPath (given : Given) (path : String) : PathOption → Option Given
  | .config => (fill given.config path).map fun config => { given with config }
  | .output => (fill given.output path).map fun output => { given with output }

/-- The request, once everything has been read. -/
def request? (given : Given) : Option Request :=
  given.manifest.map fun manifest =>
    .generate
      { manifest
        config := given.config
        output := given.output.getD "generated"
        isCheck := given.isCheck }

end Given

/-- Read arguments that are all paths. -/
def readPaths (given : Given) : List String → Option Request
  | [] => given.request?
  | path :: rest => (given.addManifest path).bind fun given => readPaths given rest

/-- Read arguments, the first of which is a path when an option waits for one. -/
def readArguments (given : Given) : Option PathOption → List String → Option Request
  | none, [] => given.request?
  | some _, [] => none
  | some option, argument :: rest =>
    match Word.ofText argument with
    | .path path => (given.addPath path option).bind fun given => readArguments given none rest
    | _ => none
  | none, argument :: rest =>
    match Word.ofText argument with
    | .escape => readPaths given rest
    | .check =>
      if given.isCheck then none else readArguments { given with isCheck := true } none rest
    | .help => some .help
    | .pathOption option none => readArguments given (some option) rest
    | .pathOption option (some path) =>
      (given.addPath path option).bind fun given => readArguments given none rest
    | .path path => (given.addManifest path).bind fun given => readArguments given none rest
    | .unknown => none

/-- What a list of arguments asks for; none when it cannot be understood. -/
def Request.ofArguments? (arguments : List String) : Option Request :=
  readArguments {} none arguments

end TemplateCodegen.CommandLine
