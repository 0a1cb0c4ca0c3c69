import TemplateCodegen.Config
import TemplateCodegen.Template.Render
import TemplateCodegen.Text.FileKey
import TemplateCodegen.Usage.Basic

/-!
# Output of one usage

What the templates of a bound usage give: a fragment for the artifact of the target class, files of
its own, fragments for global files, and global files that still wait for the fragments of their
children.
-/

namespace TemplateCodegen

/-- A generated text under the key it is stored by. -/
structure Artifact where
  /-- The key. -/
  key : String
  /-- The text. -/
  content : String
deriving DecidableEq, Repr

/-- A text for the artifact of a target class. -/
structure InlineFragment where
  /-- The key of that artifact. -/
  key : String
  /-- The text. -/
  text : String
deriving DecidableEq, Repr

/-- A text for the global files of a generator name. -/
structure ChildFragment where
  /-- The generator name. -/
  generatorName : String
  /-- The text. -/
  text : String
deriving DecidableEq, Repr

/-- A global file that waits for its children. -/
structure GlobalRequest where
  /-- The key of its artifact. -/
  key : String
  /-- The generator name whose fragments it holds. -/
  generatorName : String
  /-- The template of its content. -/
  body : Template
  /-- The context for it. -/
  context : Context
  /-- What its artifact begins with. -/
  header : String
deriving DecidableEq, Repr

/-- Everything that one usage gives. -/
structure RenderedUsage where
  /-- The fragment of the target class's artifact. -/
  inline : Option InlineFragment := none
  /-- Files of its own. -/
  files : List Artifact := []
  /-- Fragments for global files. -/
  children : List ChildFragment := []
  /-- Global files. -/
  globals : List GlobalRequest := []
deriving DecidableEq, Repr

/-- A context value as the header lists it: collections by their size only. -/
def headerValue : Value → String
  | .text content => content
  | .bool true => "true"
  | .bool false => "false"
  | .list items => "[" ++ toString items.length ++ " item(s)]"
  | .map entries => "\x7b" ++ toString entries.length ++ " entry(s)\x7d"

/-- The comments that name the generator and list the context. -/
def debugHeader (config : Config) (generator : String) (context : Context) : String :=
  String.join
    ((config.commentMarker ++ " Generated by " ++ generator ++ "\n") ::
      context.entries.map fun entry =>
        config.commentMarker ++ " " ++ entry.1 ++ ": " ++ headerValue entry.2 ++ "\n")

namespace BoundUsage

/-- What the artifacts of a usage begin with: nothing, unless the header is configured. -/
def header (usage : BoundUsage) (config : Config) : String :=
  if config.debugHeader then
    debugHeader config usage.definition.identifier.fullName usage.context
  else ""

/-- The fragment for the target class: the inline templates, joined, behind the header. A usage on
the assembly has none. -/
def inlineFragment? (usage : BoundUsage) (config : Config) : Option InlineFragment :=
  match usage.definition.templates.inline, usage.target.owner? with
  | [], _ => none
  | _, none => none
  | templates, some owner =>
    some
      { key := owner.escapedFileKey
        text := usage.header config ++
          config.fragmentSeparator.intercalate (templates.map fun inline =>
            inline.body.render usage.context) }

/-- The file of one template, under its rendered name or, when that is blank, its member's. -/
def fileArtifact (usage : BoundUsage) (config : Config) (file : FileTemplate) : Artifact :=
  let name := Text.trimmed (file.fileName.render usage.context)
  { key := Text.escapeFileKey (if name = "" then file.member else name)
    content := usage.header config ++ file.body.render usage.context }

/-- The global file of one template. -/
def globalRequest (usage : BoundUsage) (config : Config) (global : GlobalFileTemplate) :
    GlobalRequest :=
  { key := Text.escapeFileKey (Text.trimmed global.fileName)
    generatorName := global.generatorName
    body := global.body
    context := usage.context
    header := usage.header config }

/-- Render every template of a usage. Global files are asked for by usages on the assembly only. -/
def render (usage : BoundUsage) (config : Config) : RenderedUsage :=
  let templates := usage.definition.templates
  { inline := usage.inlineFragment? config
    files := templates.file.map (usage.fileArtifact config)
    children := templates.globalChild.map fun child =>
      ⟨child.generatorName, child.body.render usage.context⟩
    globals :=
      if usage.target.owner?.isNone then templates.globalFile.map (usage.globalRequest config)
      else [] }

/-- Without the configured header nothing stands in front of an artifact. -/
theorem header_of_not_debug (usage : BoundUsage) {config : Config}
    (h : config.debugHeader = false) :
    usage.header config = "" := by
  simp [header, h]

end BoundUsage

end TemplateCodegen
