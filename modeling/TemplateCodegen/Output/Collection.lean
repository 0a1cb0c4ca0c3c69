import TemplateCodegen.Definition.GlobalTemplate
import TemplateCodegen.Diagnostic.Finding
import TemplateCodegen.Output.Fragment

/-!
# Collecting outputs

The outputs of all usages together: fragments of one class become one artifact, the fragments of the
children enter their global files, and every artifact has a key of its own. When two artifacts would
share a key nothing is handed out, and each such key is reported with the number of its artifacts.
-/

namespace TemplateCodegen

/-- The artifacts of a generation, or the collisions that keep them back. -/
structure CollectedOutputs where
  /-- The artifacts in order. -/
  artifacts : List Artifact
  /-- One finding for each key that several artifacts share. -/
  diagnostics : List Diagnostic
deriving DecidableEq, Repr

/-- Put a fragment behind those of its key, or begin a new artifact at the end. -/
def addFragment (separator : String) (fragment : InlineFragment) : List Artifact → List Artifact
  | [] => [⟨fragment.key, fragment.text⟩]
  | artifact :: rest =>
    if artifact.key = fragment.key then
      { artifact with content := artifact.content ++ separator ++ fragment.text } :: rest
    else artifact :: addFragment separator fragment rest

/-- One artifact for each key of the fragments, in the order of the first fragments. -/
def groupFragments (separator : String) (fragments : List InlineFragment) : List Artifact :=
  fragments.foldl (fun artifacts fragment => addFragment separator fragment artifacts) []

/-- The fragments of the children of a generator name, one behind the other. -/
def childrenText (rendered : List RenderedUsage) (generatorName : String) : String :=
  String.join
    (((rendered.flatMap RenderedUsage.children).filter fun child =>
      child.generatorName == generatorName).map ChildFragment.text)

/-- The artifact of a global file, once the fragments of its children are known. -/
def GlobalRequest.artifact (request : GlobalRequest) (rendered : List RenderedUsage) : Artifact :=
  { key := request.key
    content := request.header ++ request.body.render
      (request.context.insertText childContent (childrenText rendered request.generatorName)) }

/-- All artifacts, whether or not they share keys: those of classes, then files, then global files.
-/
def allArtifacts (rendered : List RenderedUsage) (separator : String) : List Artifact :=
  groupFragments separator (rendered.filterMap RenderedUsage.inline) ++
    rendered.flatMap RenderedUsage.files ++
    (rendered.flatMap RenderedUsage.globals).map fun request => request.artifact rendered

/-- The findings about keys that occur more than once, in the order of their first occurrence. -/
def keyCollisions (keys : List String) : List Finding :=
  (Template.distinct keys).filterMap fun key =>
    if 1 < keys.count key then some (.duplicateArtifactKey (keys.count key) key) else none

/-- The artifacts of all usages, unless two of them share a key. -/
def collectOutputs (rendered : List RenderedUsage) (config : Config) : CollectedOutputs :=
  let artifacts := allArtifacts rendered config.fragmentSeparator
  match keyCollisions (artifacts.map Artifact.key) with
  | [] => ⟨artifacts, []⟩
  | collisions => ⟨[], collisions.map fun finding => finding.located none⟩

end TemplateCodegen
