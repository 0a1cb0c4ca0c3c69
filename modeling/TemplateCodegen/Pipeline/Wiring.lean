import TemplateCodegen.Definition.Binding
import TemplateCodegen.Incremental.StageGraph
import TemplateCodegen.Pipeline.Traffic

/-!
# Wiring of the generation graph

The stages from the host's snapshot to the artifacts: declarations are bound and claim their
attribute classes, usages are bound to the definitions and checked for repeats, what remains is
rendered usage by usage, and the outputs are collected. The diagnostics of all stages are put one
behind the other.
-/

namespace TemplateCodegen

open Incremental

/-- A step of setting up the graph. -/
abbrev Wire (α : Type) : Type := StateM (StageGraph Traffic) α

/-- The handles of the generation graph. -/
structure Wiring where
  /-- The configuration. -/
  config : SingleSource Traffic.config.kind
  /-- The declarations of the compilation. -/
  declarations : Source Traffic.declaration.kind
  /-- The declarations of referenced libraries. -/
  supplementary : Source Traffic.declaration.kind
  /-- The usages. -/
  usages : Source Traffic.usage.kind
  /-- The definitions that usages resolve to. -/
  definitions : Single Traffic.definition.listKind
  /-- The bound usages that are kept. -/
  bound : Single Traffic.boundUsage.listKind
  /-- The diagnostics of all stages. -/
  diagnostics : Single Traffic.diagnostic.listKind
  /-- Where the artifacts are handed out. -/
  artifacts : Output Traffic.artifact.listKind
  /-- Where the diagnostics are handed out. -/
  diagnosticsOutput : Output Traffic.diagnostic.listKind

/-- The stage function that binds a declaration under a configuration, with its polls. -/
def bindingStage : StageFn (Declaration × Config) (Reported Definition) where
  value entry := [bindDefinition entry.1 entry.2]
  compute entry := fun signal =>
    match bindDefinitionWith Run.poll entry.1 entry.2 signal with
    | .ok result next => .ok [result] next
    | .error error next => .error error next
  compute_ok {entry signal _ _} h := by
    cases hbind : bindDefinitionWith Run.poll entry.1 entry.2 signal with
    | ok result next =>
      simp only [hbind] at h
      cases h
      rw [bindDefinitionWith_poll_ok hbind]
    | error error next =>
      simp only [hbind] at h
      cases h

/-- Bind every declaration of a source: the definitions and the diagnostics. -/
def wireDeclarations (declarations : Values Traffic.declaration.kind)
    (config : Single Traffic.config.kind) :
    Wire (Single Traffic.definition.listKind × Single Traffic.diagnostic.listKind) := do
  let paired ← StageGraph.combine declarations config
  let results ← StageGraph.tryMap Traffic.boundDeclaration.kind paired bindingStage
  let definitions ← StageGraph.flatMap Traffic.definition.kind results
    fun (result : Reported Definition) => result.value.toList
  let diagnostics ← StageGraph.flatMap Traffic.diagnostic.kind results
    fun (result : Reported Definition) => result.diagnostics
  let definitionList ← StageGraph.collect definitions
  let diagnosticList ← StageGraph.collect diagnostics
  return (definitionList, diagnosticList)

/-- Give every attribute class to its first definition: the definitions and the diagnostics. -/
def wireClaims (declared : Single Traffic.definition.listKind) :
    Wire (Single Traffic.definition.listKind × Single Traffic.diagnostic.listKind) := do
  let claims ← StageGraph.mapSingle Traffic.claims.kind declared dedupeDefinitions
  let definitions ← StageGraph.mapSingle Traffic.definition.listKind claims
    fun (result : Reported (List Definition)) => result.value.getD []
  let diagnostics ← StageGraph.mapSingle Traffic.diagnostic.listKind claims
    fun (result : Reported (List Definition)) => result.diagnostics
  return (definitions, diagnostics)

/-- Bind every usage to the definitions: the bound usages and the diagnostics. -/
def wireUsages (usages : Values Traffic.usage.kind)
    (definitions : Single Traffic.definition.listKind) :
    Wire (Single Traffic.boundUsage.listKind × Single Traffic.diagnostic.listKind) := do
  let paired ← StageGraph.combine usages definitions
  let resolved ← StageGraph.map Traffic.resolution.kind paired
    fun (entry : Usage × List Definition) => bindUsage entry.2 entry.1
  let results ← StageGraph.flatMap Traffic.binding.kind resolved
    fun (result : Option (Reported BoundUsage)) => result.toList
  let bound ← StageGraph.flatMap Traffic.boundUsage.kind results
    fun (result : Reported BoundUsage) => result.value.toList
  let diagnostics ← StageGraph.flatMap Traffic.diagnostic.kind results
    fun (result : Reported BoundUsage) => result.diagnostics
  let diagnosticList ← StageGraph.collect diagnostics
  let boundList ← StageGraph.collect bound
  return (boundList, diagnosticList)

/-- Drop forbidden repeats: the usages that are kept and the diagnostics. -/
def wireMultiplicity (bound : Single Traffic.boundUsage.listKind) :
    Wire (Single Traffic.boundUsage.listKind × Single Traffic.diagnostic.listKind) := do
  let checked ← StageGraph.mapSingle Traffic.multiplicity.kind bound enforceMultiplicity
  let kept ← StageGraph.mapSingle Traffic.boundUsage.listKind checked
    fun (result : Reported (List BoundUsage)) => result.value.getD []
  let diagnostics ← StageGraph.mapSingle Traffic.diagnostic.listKind checked
    fun (result : Reported (List BoundUsage)) => result.diagnostics
  return (kept, diagnostics)

/-- Render every usage by itself. -/
def wireRendering (bound : Single Traffic.boundUsage.listKind)
    (config : Single Traffic.config.kind) :
    Wire (Single Traffic.rendered.listKind) := do
  let usages ← StageGraph.flatMap Traffic.boundUsage.kind bound.asValues
    fun (usages : List BoundUsage) => usages
  let paired ← StageGraph.combine usages config
  let rendered ← StageGraph.map Traffic.rendered.kind paired
    fun (entry : BoundUsage × Config) => entry.1.render entry.2
  StageGraph.collect rendered

/-- Collect the outputs: the artifacts and the diagnostics. -/
def wireCollection (rendered : Single Traffic.rendered.listKind)
    (config : Single Traffic.config.kind) :
    Wire (Single Traffic.artifact.listKind × Single Traffic.diagnostic.listKind) := do
  let paired ← StageGraph.combineSingle rendered config
  let collected ← StageGraph.mapSingle Traffic.collected.kind paired
    fun (entry : List RenderedUsage × Config) => collectOutputs entry.1 entry.2
  let artifacts ← StageGraph.mapSingle Traffic.artifact.listKind collected
    fun (outputs : CollectedOutputs) => outputs.artifacts
  let diagnostics ← StageGraph.mapSingle Traffic.diagnostic.listKind collected
    fun (outputs : CollectedOutputs) => outputs.diagnostics
  return (artifacts, diagnostics)

/-- The whole graph under a configuration, with empty sources. -/
def wire (config : Config) : Wire Wiring := do
  let configSource ← StageGraph.singleSource Traffic.config.kind config
  let declarations ← StageGraph.source Traffic.declaration.kind
  let supplementary ← StageGraph.source Traffic.declaration.kind
  let usages ← StageGraph.source Traffic.usage.kind
  let (primary, primaryDiagnostics) ← wireDeclarations declarations.values configSource.value
  let (extra, extraDiagnostics) ← wireDeclarations supplementary.values configSource.value
  let declared ← StageGraph.concat primary extra
  let (definitions, claimDiagnostics) ← wireClaims declared
  let declarationDiagnostics ← StageGraph.concat primaryDiagnostics extraDiagnostics
  let definitionDiagnostics ← StageGraph.concat declarationDiagnostics claimDiagnostics
  let (allBound, usageDiagnostics) ← wireUsages usages.values definitions
  let (bound, multiplicityDiagnostics) ← wireMultiplicity allBound
  let rendered ← wireRendering bound configSource.value
  let (artifacts, collectionDiagnostics) ← wireCollection rendered configSource.value
  let throughUsages ← StageGraph.concat definitionDiagnostics usageDiagnostics
  let throughMultiplicity ← StageGraph.concat throughUsages multiplicityDiagnostics
  let diagnostics ← StageGraph.concat throughMultiplicity collectionDiagnostics
  let artifactsOutput ← StageGraph.output artifacts
  let diagnosticsOutput ← StageGraph.output diagnostics
  return {
    config := configSource, declarations, supplementary, usages
    definitions, bound, diagnostics, artifacts := artifactsOutput, diagnosticsOutput }

end TemplateCodegen
