import TemplateCodegen.CommandLine.Arguments
import TemplateCodegen.Diagnostic.Layout
import TemplateCodegen.Manifest.Loading
import TemplateCodegen.Pipeline.Basic
import TemplateCodegen.Storage.Access

/-!
# The command

One generation from a manifest file: the configuration is loaded first and then the manifest,
artifacts are written to the output directory, and diagnostics are shown. The command fails when a
file cannot be loaded or written, or when one of the diagnostics is an error.
-/

namespace TemplateCodegen.CommandLine

open Storage

/-- What the command leaves behind besides files. -/
structure Outcome where
  /-- The exit code. -/
  code : Nat
  /-- What is printed as the result. -/
  printed : String := ""
  /-- What is printed besides. -/
  shown : String := ""
deriving DecidableEq, Repr

/-- Why an input file cannot be used. -/
inductive InputError where
  /-- The file cannot be read. -/
  | unreadable (error : FileError)
  /-- Its text cannot be loaded. -/
  | unloadable (error : LoadError)
deriving DecidableEq, Repr

/-- The two kinds of input files. -/
inductive InputFile where
  | config
  | manifest
deriving DecidableEq, Repr

/-- What a kind of input file is called as the command's argument. -/
def InputFile.name : InputFile → String
  | .config => "config"
  | .manifest => "manifest"

/-- What a kind of input file is called when it cannot be read. -/
def InputFile.longName : InputFile → String
  | .config => "config file"
  | .manifest => "manifest"

/-- What the text of a document is refused for. -/
def loadErrorText : LoadError → String
  | .notToml => "TOML parse error: the text is not TOML"
  | .misfit misfit =>
    "TOML parse error: " ++ misfit.message?.getD "the document has another shape"

/-- The text shown for an input file that cannot be used. -/
def InputError.message (file : InputFile) (path : String) (error : InputError) : String :=
  "Error loading " ++ file.name ++ " '" ++ path ++ "': " ++
    match error with
    | .unreadable error => "Failed to read " ++ file.longName ++ ": " ++ error.message
    | .unloadable error => "Failed to parse " ++ file.name ++ " TOML: " ++ loadErrorText error

/-- The explanation of the command. -/
def usageText : String :=
  "Template-driven code generation from a host manifest\n\n" ++
  "Usage: template-codegen [OPTIONS] <MANIFEST>\n\n" ++
  "Arguments:\n" ++
  "  <MANIFEST>  Manifest listing generator declarations and usage sites (TOML format)\n\n" ++
  "Options:\n" ++
  "  -c, --config <CONFIG>  Generation config file (TOML format)\n" ++
  "  -o, --output <OUTPUT>  Directory artifacts are written to [default: generated]\n" ++
  "      --check            Report diagnostics without writing anything\n" ++
  "  -h, --help             Print help\n"

/-- The outcome when the arguments cannot be understood. -/
def misused : Outcome := { code := 2 }

/-- The outcome of a command that has failed. -/
def failed (shown : String) : Outcome := { code := 1, shown := shown ++ "\n" }

variable {m : Type → Type} [Monad m]

/-- Load an input file. -/
def loadFile {α : Type} (files : FileAccess m) (load : String → Except LoadError α)
    (path : String) :
    m (Except InputError α) := do
  match ← files.read path with
  | .error error => pure (.error (.unreadable error))
  | .ok text => pure ((load text).mapError InputError.unloadable)

/-- The configuration that the arguments name, or the default one. -/
def loadConfig (files : FileAccess m) : Option String → m (Except InputError Config)
  | none => pure (.ok {})
  | some path => loadFile files Config.load path

/-- What is shown for the diagnostics of a report. -/
def shownDiagnostics (report : Report) : String :=
  String.join (report.diagnostics.map fun diagnostic => diagnostic.display ++ "\n")

/-- The exit code of a generation: zero without errors. -/
def exitCode (report : Report) : Nat := if report.hasErrors then 1 else 0

/-- Report on a generation without writing anything: the keys of the artifacts are the result. -/
def check (manifest : Manifest) (config : Config) : Outcome :=
  match generate manifest config .quiet with
  | .error error => failed ("Error: " ++ error.message)
  | .ok generation =>
    { code := exitCode generation.report
      printed := String.join (generation.artifacts.map fun artifact => artifact.key ++ "\n")
      shown := shownDiagnostics generation.report }

/-- Generate into a directory. -/
def generateFiles (files : FileAccess m) (manifest : Manifest) (config : Config)
    (directory : String) :
    m Outcome := do
  let output : OutputDirectory := ⟨directory, config.fileExtension⟩
  match ← (manifest.pipeline config).run (output.store files) .quiet with
  | (_, _, .error error) => pure (failed ("Error: " ++ error.message FileError.message))
  | (_, _, .ok report) =>
    let written :=
      if report.emitted.isEmpty then ""
      else "wrote " ++ toString report.emitted.length ++ " artifact(s) to " ++ directory ++ "\n"
    pure { code := exitCode report, shown := shownDiagnostics report ++ written }

/-- Do what the arguments ask for. -/
def perform (files : FileAccess m) (arguments : Arguments) : m Outcome := do
  match ← loadConfig files arguments.config with
  | .error error => pure (failed (error.message .config (arguments.config.getD "")))
  | .ok config =>
    match ← loadFile files Manifest.load arguments.manifest with
    | .error error => pure (failed (error.message .manifest arguments.manifest))
    | .ok manifest =>
      if arguments.isCheck then pure (check manifest config)
      else generateFiles files manifest config arguments.output

/-- Run the command. -/
def run (files : FileAccess m) (arguments : List String) : m Outcome :=
  match Request.ofArguments? arguments with
  | none => pure misused
  | some .help => pure { code := 0, printed := usageText }
  | some (.generate arguments) => perform files arguments

end TemplateCodegen.CommandLine
