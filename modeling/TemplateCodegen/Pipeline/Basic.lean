import TemplateCodegen.Incremental.Pass
import TemplateCodegen.Manifest.Reading
import TemplateCodegen.Pipeline.Wiring

/-!
# The generation pipeline

A pipeline lives over many passes: the host supplies new snapshots of declarations, usages and
configuration, and each pass does what has become necessary. Changed artifacts are given to a sink
one by one. A set of artifacts counts as delivered only when the sink has taken all of it, so a pass
that fails half way is repeated in full; a cancelled pass delivers nothing.
-/

namespace TemplateCodegen

open Incremental

/-- Why a pass was given up; `ε` is what can go wrong in the sink. -/
inductive PassError (ε : Type) where
  /-- The pass was asked to stop. -/
  | cancelled (error : Cancelled)
  /-- The sink has failed. -/
  | sink (error : ε)
deriving DecidableEq, Repr

/-- The text shown for a pass that was given up. -/
def PassError.message {ε : Type} (shown : ε → String) : PassError ε → String
  | .cancelled error => error.message
  | .sink error => "failed to write artifact: " ++ shown error

/-- What a pass reports. -/
structure Report where
  /-- The diagnostics of the current snapshot, stage by stage. -/
  diagnostics : List Diagnostic
  /-- The keys of the artifacts that the sink has taken in this pass. -/
  emitted : List String
deriving DecidableEq, Repr

namespace Report

/-- Whether one of the diagnostics is an error. -/
def hasErrors (report : Report) : Bool := report.diagnostics.any Diagnostic.isError

/-- The diagnostics that are errors. -/
def errors (report : Report) : List Diagnostic := report.diagnostics.filter Diagnostic.isError

/-- The diagnostics that are warnings. -/
def warnings (report : Report) : List Diagnostic :=
  report.diagnostics.filter fun diagnostic => !diagnostic.isError

end Report

/-- A generation graph with its handles. -/
structure Pipeline where
  /-- The graph. -/
  graph : StageGraph Traffic
  /-- The handles. -/
  wiring : Wiring

namespace Pipeline

/-- A pipeline without declarations and usages. -/
def ofConfig (config : Config) : Pipeline :=
  let (wiring, graph) := (wire config).run (StageGraph.empty.setParallel config.isParallel)
  ⟨graph, wiring⟩

/-- Replace the declarations of the compilation; also says whether they differ. -/
def setDeclarations (pipeline : Pipeline) (declarations : List Declaration) : Pipeline × Bool :=
  let (graph, changed) := pipeline.graph.setSource pipeline.wiring.declarations declarations
  ({ pipeline with graph }, changed)

/-- Replace the declarations of referenced libraries; also says whether they differ. -/
def setSupplementary (pipeline : Pipeline) (declarations : List Declaration) : Pipeline × Bool :=
  let (graph, changed) := pipeline.graph.setSource pipeline.wiring.supplementary declarations
  ({ pipeline with graph }, changed)

/-- Replace the usages; also says whether they differ. -/
def setUsages (pipeline : Pipeline) (usages : List Usage) : Pipeline × Bool :=
  let (graph, changed) := pipeline.graph.setSource pipeline.wiring.usages usages
  ({ pipeline with graph }, changed)

/-- Replace the configuration; also says whether it differs. -/
def setConfig (pipeline : Pipeline) (config : Config) : Pipeline × Bool :=
  let (graph, changed) :=
    (pipeline.graph.setParallel config.isParallel).setSingle pipeline.wiring.config config
  ({ pipeline with graph }, changed)

/-- The definitions that usages resolve to, as of the last pass. -/
def definitions (pipeline : Pipeline) : List Definition :=
  (pipeline.graph.get? pipeline.wiring.definitions).getD []

/-- The bound usages that are kept, as of the last pass. -/
def boundUsages (pipeline : Pipeline) : List BoundUsage :=
  (pipeline.graph.get? pipeline.wiring.bound).getD []

/-- The diagnostics of all stages, as of the last pass. -/
def diagnostics (pipeline : Pipeline) : List Diagnostic :=
  (pipeline.graph.get? pipeline.wiring.diagnostics).getD []

/-- The artifacts that have not been delivered. -/
def pendingArtifacts? (pipeline : Pipeline) : Option (Pending Traffic.artifact.listKind) :=
  pipeline.graph.pending? pipeline.wiring.artifacts

/-- Bring the graph up to date, without delivering anything. The diagnostics count as taken. -/
def update (pipeline : Pipeline) (signal : Signal) : Pipeline × Signal × Except Cancelled Unit :=
  match pipeline.graph.run signal with
  | (graph, signal, .ok _) =>
    ({ pipeline with graph := (graph.take pipeline.wiring.diagnosticsOutput).1 }, signal, .ok ())
  | (graph, signal, .error error) => ({ pipeline with graph }, signal, .error error)

/-- Mark artifacts as delivered. -/
def commitArtifacts (pipeline : Pipeline) (pending : Pending Traffic.artifact.listKind) :
    Pipeline :=
  { pipeline with graph := pipeline.graph.commit pipeline.wiring.artifacts pending }

/-- Give artifacts to a sink one by one, up to its first failure. -/
def emitAll {m : Type → Type} [Monad m] {ε : Type} (emit : Artifact → m (Except ε Unit)) :
    List Artifact → m (Except ε Unit)
  | [] => pure (.ok ())
  | artifact :: rest => do
    match ← emit artifact with
    | .ok () => emitAll emit rest
    | .error error => pure (.error error)

/-- Run one pass, giving changed artifacts to a sink. -/
def run {m : Type → Type} [Monad m] {ε : Type} (pipeline : Pipeline)
    (emit : Artifact → m (Except ε Unit)) (signal : Signal) :
    m (Pipeline × Signal × Except (PassError ε) Report) := do
  match pipeline.update signal with
  | (pipeline, signal, .error error) => pure (pipeline, signal, .error (.cancelled error))
  | (pipeline, signal, .ok ()) =>
    match pipeline.pendingArtifacts? with
    | none => pure (pipeline, signal, .ok ⟨pipeline.diagnostics, []⟩)
    | some pending =>
      let artifacts : List Artifact := pending.value
      match ← emitAll emit artifacts with
      | .ok () =>
        pure (pipeline.commitArtifacts pending, signal,
          .ok ⟨pipeline.diagnostics, artifacts.map Artifact.key⟩)
      | .error error => pure (pipeline, signal, .error (.sink error))

end Pipeline

/-- A fresh pipeline that holds a manifest. -/
def Manifest.pipeline (manifest : Manifest) (config : Config) : Pipeline :=
  let pipeline := Pipeline.ofConfig config
  let (pipeline, _) := pipeline.setDeclarations manifest.definitions
  let (pipeline, _) := pipeline.setSupplementary manifest.supplementary
  let (pipeline, _) := pipeline.setUsages manifest.usages
  pipeline

/-- The result of a single generation. -/
structure Generation where
  /-- The artifacts in order. -/
  artifacts : List Artifact
  /-- The report of the pass. -/
  report : Report
deriving DecidableEq, Repr

/-- Keep the artifacts that are given to the sink. -/
def keepArtifact (artifact : Artifact) : StateM (List Artifact) (Except Empty Unit) := fun kept =>
  (.ok (), kept ++ [artifact])

/-- Generate once from a manifest, unless the signal cancels it. -/
def generate (manifest : Manifest) (config : Config) (signal : Signal) :
    Except Cancelled Generation :=
  match ((manifest.pipeline config).run keepArtifact signal).run [] with
  | ((_, _, .ok report), artifacts) => .ok ⟨artifacts, report⟩
  | ((_, _, .error (.cancelled error)), _) => .error error

end TemplateCodegen
