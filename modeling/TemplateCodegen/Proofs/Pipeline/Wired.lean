import Mathlib.Data.List.Basic
import TemplateCodegen.Pipeline.Basic
import TemplateCodegen.Proofs.Incremental.Building
import TemplateCodegen.Proofs.Pipeline.Admission

/-!
# What the generation graph computes

The plain reading of a generation: declarations are bound, give their attribute classes away, usages
are bound to what is left, checked for repeats, rendered and collected, and the diagnostics follow
one another step by step. Main statement: whatever the host supplies, the stages of the generation
graph in front of its two outputs denote the artifacts and the diagnostics of that reading
(`wire_yields`).
-/

namespace TemplateCodegen

open Incremental

namespace Reported

variable {α : Type}

/-- The values of some results, without the refused ones. -/
def valuesOf (results : List (Reported α)) : List α := results.filterMap value

/-- The diagnostics of some results, one behind the other. -/
def diagnosticsOf (results : List (Reported α)) : List Diagnostic := results.flatMap diagnostics

/-- The values as a stage puts them one behind the other. -/
theorem flatMap_value (results : List (Reported α)) :
    (results.flatMap fun result => result.value.toList) = valuesOf results :=
  (List.filterMap_eq_flatMap_toList value results).symm

end Reported

/-- One generation as the plain composition of its steps. -/
def sequential (manifest : Manifest) (config : Config) : Generation :=
  let primary := manifest.definitions.map fun declaration => bindDefinition declaration config
  let extra := manifest.supplementary.map fun declaration => bindDefinition declaration config
  let claims := dedupeDefinitions (Reported.valuesOf primary ++ Reported.valuesOf extra)
  let bindings := manifest.usages.filterMap (bindUsage (claims.value.getD []))
  let kept := enforceMultiplicity (Reported.valuesOf bindings)
  let rendered := (kept.value.getD []).map fun usage => usage.render config
  let collected := collectOutputs rendered config
  { artifacts := collected.artifacts
    report :=
      { diagnostics :=
          Reported.diagnosticsOf primary ++ Reported.diagnosticsOf extra ++ claims.diagnostics ++
            Reported.diagnosticsOf bindings ++ kept.diagnostics ++ collected.diagnostics
        emitted := collected.artifacts.map Artifact.key } }

section Wiring

variable {initial supply : Supply Traffic} {host : Host} {graph : StageGraph Traffic}

/-- The stages that bind declarations. -/
theorem wireDeclarations_yields {declarations : Values Traffic.declaration.kind}
    {config : Single Traffic.config.kind} {items : List Declaration} {chosen : Config}
    (hitems :
      Incremental.Denotes supply graph.stages declarations.id Traffic.declaration.kind items)
    (hconfig : Incremental.Denotes supply graph.stages config.id Traffic.config.kind [chosen]) :
    Yields initial host.Allows graph (wireDeclarations declarations config) fun output after =>
      Incremental.Denotes supply after.stages output.1.id Traffic.definition.listKind
        [Reported.valuesOf (items.map fun item => bindDefinition item chosen)] ∧
      Incremental.Denotes supply after.stages output.2.id Traffic.diagnostic.listKind
        [Reported.diagnosticsOf (items.map fun item => bindDefinition item chosen)] := by
  unfold wireDeclarations
  refine (Yields.combine hitems hconfig (host.allows_of_not_map nofun)).bind
    fun paired graph₁ _ hpaired => ?_
  refine (Yields.tryMap Traffic.boundDeclaration.kind hpaired bindingStage
    (host.allows_bindingStage paired.id)).bind fun results graph₂ _ hresults => ?_
  have hbound : Incremental.Denotes supply graph₂.stages results.id Traffic.boundDeclaration.kind
      (items.map fun item => bindDefinition item chosen) := by
    have hvalues : (items.map fun item => (item, chosen)).flatMap bindingStage.value =
        items.map fun item => bindDefinition item chosen := by
      rw [List.flatMap_map]
      exact List.map_eq_flatMap.symm
    exact hvalues ▸ hresults
  refine (Yields.flatMap Traffic.definition.kind hbound _ (host.allows_ofPure results.id ?_)).bind
    fun definitions graph₃ hgrows₃ hdefinitions => ?_
  · exact fun result hresult definition hmem => hresult definition (Option.mem_toList.mp hmem)
  refine (Yields.flatMap Traffic.diagnostic.kind (hgrows₃.denotes hbound) _
    (host.allows_ofPure results.id ?_)).bind fun diagnostics graph₄ hgrows₄ hdiagnostics => ?_
  · exact fun _ _ _ _ => trivial
  refine (Yields.collect (hgrows₄.denotes hdefinitions) (host.allows_of_not_map nofun)).bind
    fun definitionList graph₅ hgrows₅ hdefinitionList => ?_
  refine (Yields.collect (hgrows₅.denotes hdiagnostics) (host.allows_of_not_map nofun)).bind
    fun diagnosticList graph₆ hgrows₆ hdiagnosticList => ?_
  have hvalues := Reported.flatMap_value (items.map fun item => bindDefinition item chosen)
  exact Yields.pure ⟨hvalues ▸ hgrows₆.denotes hdefinitionList, hdiagnosticList⟩

/-- The stages that give the attribute classes away. -/
theorem wireClaims_yields {declared : Single Traffic.definition.listKind}
    {definitions : List Definition}
    (h : Incremental.Denotes supply graph.stages declared.id Traffic.definition.listKind
      [definitions]) :
    Yields initial host.Allows graph (wireClaims declared) fun output after =>
      Incremental.Denotes supply after.stages output.1.id Traffic.definition.listKind
        [(dedupeDefinitions definitions).value.getD []] ∧
      Incremental.Denotes supply after.stages output.2.id Traffic.diagnostic.listKind
        [(dedupeDefinitions definitions).diagnostics] := by
  unfold wireClaims
  refine (Yields.mapSingle Traffic.claims.kind h _
    (host.allows_dedupeDefinitions declared.id)).bind fun claims graph₁ _ hclaims => ?_
  refine (Yields.mapSingle Traffic.definition.listKind hclaims _
    (host.allows_map claims.id ?_)).bind fun kept graph₂ hgrows₂ hkept => ?_
  · exact fun result hresult => forall_mem_getD hresult
  refine (Yields.mapSingle Traffic.diagnostic.listKind (hgrows₂.denotes hclaims) _
    (host.allows_map claims.id ?_)).bind fun diagnostics graph₃ hgrows₃ hdiagnostics => ?_
  · exact fun _ _ _ _ => trivial
  exact Yields.pure ⟨hgrows₃.denotes hkept, hdiagnostics⟩

/-- The stages that bind usages. -/
theorem wireUsages_yields {usages : Values Traffic.usage.kind}
    {definitions : Single Traffic.definition.listKind} {items : List Usage}
    {kept : List Definition}
    (hitems : Incremental.Denotes supply graph.stages usages.id Traffic.usage.kind items)
    (hkept : Incremental.Denotes supply graph.stages definitions.id Traffic.definition.listKind
      [kept]) :
    Yields initial host.Allows graph (wireUsages usages definitions) fun output after =>
      Incremental.Denotes supply after.stages output.1.id Traffic.boundUsage.listKind
        [Reported.valuesOf (items.filterMap (bindUsage kept))] ∧
      Incremental.Denotes supply after.stages output.2.id Traffic.diagnostic.listKind
        [Reported.diagnosticsOf (items.filterMap (bindUsage kept))] := by
  unfold wireUsages
  refine (Yields.combine hitems hkept (host.allows_of_not_map nofun)).bind
    fun paired graph₁ _ hpaired => ?_
  refine (Yields.map Traffic.resolution.kind hpaired _ (host.allows_bindUsage paired.id)).bind
    fun resolved graph₂ _ hresolved => ?_
  refine (Yields.flatMap Traffic.binding.kind hresolved _
    (host.allows_ofPure resolved.id ?_)).bind fun results graph₃ _ hresults => ?_
  · exact fun result hresult binding hmem => hresult binding (Option.mem_toList.mp hmem)
  have hbindings : Incremental.Denotes supply graph₃.stages results.id Traffic.binding.kind
      (items.filterMap (bindUsage kept)) := by
    have hvalues : ((items.map fun item => (item, kept)).map fun entry =>
        bindUsage entry.2 entry.1).flatMap Option.toList = items.filterMap (bindUsage kept) := by
      rw [List.map_map, List.flatMap_map, List.filterMap_eq_flatMap_toList]
      rfl
    exact hvalues ▸ hresults
  refine (Yields.flatMap Traffic.boundUsage.kind hbindings _
    (host.allows_ofPure results.id ?_)).bind fun bound graph₄ hgrows₄ hbound => ?_
  · exact fun binding hbinding usage hmem => hbinding usage (Option.mem_toList.mp hmem)
  refine (Yields.flatMap Traffic.diagnostic.kind (hgrows₄.denotes hbindings) _
    (host.allows_ofPure results.id ?_)).bind fun diagnostics graph₅ hgrows₅ hdiagnostics => ?_
  · exact fun _ _ _ _ => trivial
  refine (Yields.collect hdiagnostics (host.allows_of_not_map nofun)).bind
    fun diagnosticList graph₆ hgrows₆ hdiagnosticList => ?_
  refine (Yields.collect (hgrows₆.denotes (hgrows₅.denotes hbound))
    (host.allows_of_not_map nofun)).bind fun boundList graph₇ hgrows₇ hboundList => ?_
  have hvalues := Reported.flatMap_value (items.filterMap (bindUsage kept))
  exact Yields.pure ⟨hvalues ▸ hboundList, hgrows₇.denotes hdiagnosticList⟩

/-- The stages that drop forbidden repeats. -/
theorem wireMultiplicity_yields {bound : Single Traffic.boundUsage.listKind}
    {usages : List BoundUsage}
    (h : Incremental.Denotes supply graph.stages bound.id Traffic.boundUsage.listKind [usages]) :
    Yields initial host.Allows graph (wireMultiplicity bound) fun output after =>
      Incremental.Denotes supply after.stages output.1.id Traffic.boundUsage.listKind
        [(enforceMultiplicity usages).value.getD []] ∧
      Incremental.Denotes supply after.stages output.2.id Traffic.diagnostic.listKind
        [(enforceMultiplicity usages).diagnostics] := by
  unfold wireMultiplicity
  refine (Yields.mapSingle Traffic.multiplicity.kind h _
    (host.allows_enforceMultiplicity bound.id)).bind fun checked graph₁ _ hchecked => ?_
  refine (Yields.mapSingle Traffic.boundUsage.listKind hchecked _
    (host.allows_map checked.id ?_)).bind fun kept graph₂ hgrows₂ hkept => ?_
  · exact fun result hresult => forall_mem_getD hresult
  refine (Yields.mapSingle Traffic.diagnostic.listKind (hgrows₂.denotes hchecked) _
    (host.allows_map checked.id ?_)).bind fun diagnostics graph₃ hgrows₃ hdiagnostics => ?_
  · exact fun _ _ _ _ => trivial
  exact Yields.pure ⟨hgrows₃.denotes hkept, hdiagnostics⟩

/-- The stages that render usages. -/
theorem wireRendering_yields {bound : Single Traffic.boundUsage.listKind}
    {config : Single Traffic.config.kind} {usages : List BoundUsage} {chosen : Config}
    (h : Incremental.Denotes supply graph.stages bound.id Traffic.boundUsage.listKind [usages])
    (hconfig : Incremental.Denotes supply graph.stages config.id Traffic.config.kind [chosen]) :
    Yields initial host.Allows graph (wireRendering bound config) fun output after =>
      Incremental.Denotes supply after.stages output.id Traffic.rendered.listKind
        [usages.map fun usage => usage.render chosen] := by
  have hlist : Incremental.Denotes supply graph.stages bound.asValues.id Traffic.boundUsage.listKind
      [usages] := h
  unfold wireRendering
  refine (Yields.flatMap Traffic.boundUsage.kind hlist _
    (host.allows_ofPure bound.id ?_)).bind fun items graph₁ hgrows₁ hitems => ?_
  · exact fun items hitems => hitems
  have husages : [usages].flatMap id = usages := List.flatMap_singleton id usages
  refine (Yields.combine (husages ▸ hitems) (hgrows₁.denotes hconfig)
    (host.allows_of_not_map nofun)).bind fun paired graph₂ _ hpaired => ?_
  refine (Yields.map Traffic.rendered.kind hpaired _ (host.allows_map paired.id ?_)).bind
    fun rendered graph₃ _ hrendered => ?_
  · exact fun _ _ => trivial
  have hvalues : (usages.map fun usage => (usage, chosen)).map
      (fun entry => entry.1.render entry.2) = usages.map fun usage => usage.render chosen :=
    List.map_map
  exact Yields.collect (hvalues ▸ hrendered) (host.allows_of_not_map nofun)

/-- The stages that collect outputs. -/
theorem wireCollection_yields {rendered : Single Traffic.rendered.listKind}
    {config : Single Traffic.config.kind} {usages : List RenderedUsage} {chosen : Config}
    (h : Incremental.Denotes supply graph.stages rendered.id Traffic.rendered.listKind [usages])
    (hconfig : Incremental.Denotes supply graph.stages config.id Traffic.config.kind [chosen]) :
    Yields initial host.Allows graph (wireCollection rendered config) fun output after =>
      Incremental.Denotes supply after.stages output.1.id Traffic.artifact.listKind
        [(collectOutputs usages chosen).artifacts] ∧
      Incremental.Denotes supply after.stages output.2.id Traffic.diagnostic.listKind
        [(collectOutputs usages chosen).diagnostics] := by
  unfold wireCollection
  refine (Yields.combineSingle h hconfig (host.allows_of_not_map nofun)).bind
    fun paired graph₁ _ hpaired => ?_
  refine (Yields.mapSingle Traffic.collected.kind hpaired _ (host.allows_map paired.id ?_)).bind
    fun collected graph₂ _ hcollected => ?_
  · exact fun _ _ => trivial
  refine (Yields.mapSingle Traffic.artifact.listKind hcollected _
    (host.allows_map collected.id ?_)).bind fun artifacts graph₃ hgrows₃ hartifacts => ?_
  · exact fun _ _ _ _ => trivial
  refine (Yields.mapSingle Traffic.diagnostic.listKind (hgrows₃.denotes hcollected) _
    (host.allows_map collected.id ?_)).bind fun diagnostics graph₄ hgrows₄ hdiagnostics => ?_
  · exact fun _ _ _ _ => trivial
  exact Yields.pure ⟨hgrows₄.denotes hartifacts, hdiagnostics⟩

/-- Lists of admitted values are put one behind the other. -/
theorem concat_yields {item : Kind Traffic} {left right : Single (.list item)}
    {lefts rights : List item.Val}
    (hleft : Incremental.Denotes supply graph.stages left.id (.list item)
      [(lefts : (Kind.list item).Val)])
    (hright : Incremental.Denotes supply graph.stages right.id (.list item)
      [(rights : (Kind.list item).Val)]) :
    Yields initial host.Allows graph (StageGraph.concat left right) fun output after =>
      Incremental.Denotes supply after.stages output.id (.list item)
        [(lefts ++ rights : (Kind.list item).Val)] := by
  refine Yields.concat hleft hright (host.allows_of_not_map nofun) fun input => ?_
  refine host.allows_map input fun lists hlists value hmem => ?_
  rcases List.mem_append.mp hmem with hmem | hmem
  · exact hlists.1 value hmem
  · exact hlists.2 value hmem

end Wiring

/-! ## The whole graph -/

/-- The handles of the sources name the first four stages. -/
structure Wiring.HasSources (wiring : Wiring) (stages : List (Stage Traffic)) : Prop where
  /-- The configuration comes first. -/
  config : wiring.config.id = 0 ∧ stages[0]? = some (.source Traffic.config.kind)
  /-- The declarations of the compilation come second. -/
  declarations : wiring.declarations.id = 1 ∧ stages[1]? = some (.source Traffic.declaration.kind)
  /-- The declarations of referenced libraries come third. -/
  supplementary : wiring.supplementary.id = 2 ∧ stages[2]? = some (.source Traffic.declaration.kind)
  /-- The usages come last. -/
  usages : wiring.usages.id = 3 ∧ stages[3]? = some (.source Traffic.usage.kind)

/-- The handles of the outputs hand out a generation. -/
structure Wiring.HandsOut (wiring : Wiring) (supply : Supply Traffic) (generation : Generation)
    (stages : List (Stage Traffic)) : Prop where
  /-- The artifacts are handed out. -/
  artifacts : ∃ input, stages[wiring.artifacts.id]? =
      some (.output Traffic.artifact.listKind input) ∧
    Incremental.Denotes supply stages input Traffic.artifact.listKind [generation.artifacts]
  /-- The diagnostics are handed out. -/
  diagnosticsOutput : stages[wiring.diagnosticsOutput.id]? =
    some (.output Traffic.diagnostic.listKind wiring.diagnostics.id)
  /-- The diagnostics are those of the generation. -/
  diagnostics : Incremental.Denotes supply stages wiring.diagnostics.id Traffic.diagnostic.listKind
    [generation.report.diagnostics]

/-- The sources are supplied with a manifest and a configuration. -/
structure Supplies (manifest : Manifest) (config : Config) (supply : Supply Traffic) : Prop where
  /-- The configuration. -/
  config : supply 0 Traffic.config.kind = [config]
  /-- The declarations of the compilation. -/
  declarations : supply 1 Traffic.declaration.kind = manifest.definitions
  /-- The declarations of referenced libraries. -/
  supplementary : supply 2 Traffic.declaration.kind = manifest.supplementary
  /-- The usages. -/
  usages : supply 3 Traffic.usage.kind = manifest.usages

/-- What a fresh graph is supplied with: a configuration. -/
def freshSupply (config : Config) : Supply Traffic :=
  Supply.set (fun _ _ => []) 0 Traffic.config.kind [config]

/-- The first stages are the four sources. -/
theorem sources_yield {host : Host} {graph : StageGraph Traffic} (config : Config)
    (hempty : graph.stages = [])
    {next : SingleSource Traffic.config.kind → Source Traffic.declaration.kind →
      Source Traffic.declaration.kind → Source Traffic.usage.kind → Wire Wiring}
    {post : Wiring → StageGraph Traffic → Prop}
    (hnext : ∀ after, after.stages =
        [.source Traffic.config.kind, .source Traffic.declaration.kind,
          .source Traffic.declaration.kind, .source Traffic.usage.kind] →
      Yields (freshSupply config) host.Allows after (next ⟨0⟩ ⟨1⟩ ⟨2⟩ ⟨3⟩) post) :
    Yields (freshSupply config) host.Allows graph
      (do
        let configSource ← StageGraph.singleSource Traffic.config.kind config
        let declarations ← StageGraph.source Traffic.declaration.kind
        let supplementary ← StageGraph.source Traffic.declaration.kind
        let usages ← StageGraph.source Traffic.usage.kind
        next configSource declarations supplementary usages)
      post := by
  have hother : ∀ {id : Nat} {kind : Kind Traffic}, id ≠ 0 → freshSupply config id kind = [] :=
    fun hid => Supply.set_of_ne _ (Ne.symm hid) _ _ _
  refine (Yields.singleSource Traffic.config.kind config (host.allows_of_not_map nofun) ?_).bind ?_
  · rw [hempty]
    exact Supply.set_self _ 0 Traffic.config.kind [config]
  rintro ⟨configId⟩ graph₁ _ ⟨rfl, hstages₁⟩
  rw [hempty] at hstages₁ ⊢
  refine (Yields.source Traffic.declaration.kind (host.allows_of_not_map nofun)
    (hother (by simp [hstages₁]))).bind ?_
  rintro ⟨declarationsId⟩ graph₂ _ ⟨rfl, hstages₂⟩
  rw [hstages₁] at hstages₂ ⊢
  refine (Yields.source Traffic.declaration.kind (host.allows_of_not_map nofun)
    (hother (by simp [hstages₂]))).bind ?_
  rintro ⟨supplementaryId⟩ graph₃ _ ⟨rfl, hstages₃⟩
  rw [hstages₂] at hstages₃ ⊢
  refine (Yields.source Traffic.usage.kind (host.allows_of_not_map nofun)
    (hother (by simp [hstages₃]))).bind ?_
  rintro ⟨usagesId⟩ graph₄ _ ⟨rfl, hstages₄⟩
  rw [hstages₃] at hstages₄ ⊢
  exact hnext graph₄ hstages₄

/-- Whatever the host supplies, the generation graph hands out the generation that is the plain
composition of its steps. -/
theorem wire_yields (host : Host) {supply : Supply Traffic} {graph : StageGraph Traffic}
    {manifest : Manifest} {chosen : Config} (config : Config) (hempty : graph.stages = [])
    (hsupplies : Supplies manifest chosen supply) :
    Yields (freshSupply config) host.Allows graph (wire config) fun wiring after =>
      wiring.HasSources after.stages ∧
        wiring.HandsOut supply (sequential manifest chosen) after.stages := by
  unfold wire
  refine sources_yield config hempty fun graph₀ hstages => ?_
  have hconfig₀ : Incremental.Denotes supply graph₀.stages 0 Traffic.config.kind [chosen] :=
    hsupplies.config ▸ Incremental.Denotes.of_source (by rw [hstages]; rfl)
  have hdeclarations₀ : Incremental.Denotes supply graph₀.stages 1 Traffic.declaration.kind
      manifest.definitions :=
    hsupplies.declarations ▸ Incremental.Denotes.of_source (by rw [hstages]; rfl)
  have hsupplementary₀ : Incremental.Denotes supply graph₀.stages 2 Traffic.declaration.kind
      manifest.supplementary :=
    hsupplies.supplementary ▸ Incremental.Denotes.of_source (by rw [hstages]; rfl)
  have husages₀ : Incremental.Denotes supply graph₀.stages 3 Traffic.usage.kind manifest.usages :=
    hsupplies.usages ▸ Incremental.Denotes.of_source (by rw [hstages]; rfl)
  -- Each graph is named by the number of steps behind the sources.
  refine (wireDeclarations_yields hdeclarations₀ hconfig₀).bind
    fun ⟨primary, primaryDiagnostics⟩ graph₁ h₁ ⟨hprimary, hprimaryDiagnostics⟩ => ?_
  refine (wireDeclarations_yields (h₁.denotes hsupplementary₀) (h₁.denotes hconfig₀)).bind
    fun ⟨extra, extraDiagnostics⟩ graph₂ h₂ ⟨hextra, hextraDiagnostics⟩ => ?_
  refine (concat_yields (h₂.denotes hprimary) hextra).bind fun declared graph₃ h₃ hdeclared => ?_
  refine (wireClaims_yields hdeclared).bind
    fun ⟨definitions, claimDiagnostics⟩ graph₄ h₄ ⟨hdefinitions, hclaimDiagnostics⟩ => ?_
  have h₂₄ := h₃.trans h₄
  refine (concat_yields ((h₂.trans h₂₄).denotes hprimaryDiagnostics)
    (h₂₄.denotes hextraDiagnostics)).bind
    fun declarationDiagnostics graph₅ h₅ hdeclarationDiagnostics => ?_
  refine (concat_yields hdeclarationDiagnostics (h₅.denotes hclaimDiagnostics)).bind
    fun definitionDiagnostics graph₆ h₆ hdefinitionDiagnostics => ?_
  have h₄₆ := h₅.trans h₆
  have h₀₆ := (h₁.trans h₂).trans (h₂₄.trans h₄₆)
  refine (wireUsages_yields (h₀₆.denotes husages₀) (h₄₆.denotes hdefinitions)).bind
    fun ⟨allBound, usageDiagnostics⟩ graph₇ h₇ ⟨hallBound, husageDiagnostics⟩ => ?_
  refine (wireMultiplicity_yields hallBound).bind
    fun ⟨bound, multiplicityDiagnostics⟩ graph₈ h₈ ⟨hbound, hmultiplicityDiagnostics⟩ => ?_
  have h₀₈ := h₀₆.trans (h₇.trans h₈)
  refine (wireRendering_yields hbound (h₀₈.denotes hconfig₀)).bind
    fun rendered graph₉ h₉ hrendered => ?_
  refine (wireCollection_yields hrendered ((h₀₈.trans h₉).denotes hconfig₀)).bind
    fun ⟨artifacts, collectionDiagnostics⟩ graph₁₀ h₁₀ ⟨hartifacts, hcollectionDiagnostics⟩ => ?_
  have h₈₁₀ := h₉.trans h₁₀
  have h₇₁₀ := h₈.trans h₈₁₀
  refine (concat_yields ((h₇.trans h₇₁₀).denotes hdefinitionDiagnostics)
    (h₇₁₀.denotes husageDiagnostics)).bind
    fun throughUsages graph₁₁ h₁₁ hthroughUsages => ?_
  refine (concat_yields hthroughUsages
    ((h₈₁₀.trans h₁₁).denotes hmultiplicityDiagnostics)).bind
    fun throughMultiplicity graph₁₂ h₁₂ hthroughMultiplicity => ?_
  have h₁₀₁₂ := h₁₁.trans h₁₂
  refine (concat_yields hthroughMultiplicity (h₁₀₁₂.denotes hcollectionDiagnostics)).bind
    fun diagnostics graph₁₃ h₁₃ hdiagnostics => ?_
  have hartifacts₁₃ := (h₁₀₁₂.trans h₁₃).denotes hartifacts
  refine (Yields.output hartifacts₁₃.kind? (host.allows_of_not_map nofun)).bind
    fun artifactsOutput graph₁₄ h₁₄ hartifactsOutput => ?_
  have hdiagnostics₁₄ := h₁₄.denotes hdiagnostics
  refine (Yields.output hdiagnostics₁₄.kind? (host.allows_of_not_map nofun)).bind
    fun diagnosticsOutput graph₁₅ h₁₅ hdiagnosticsOutput => ?_
  have h₁₃₁₅ := h₁₄.trans h₁₅
  have h₀₁₅ := (h₀₈.trans h₈₁₀).trans ((h₁₀₁₂.trans h₁₃).trans h₁₃₁₅)
  refine Yields.pure ⟨?_, ?_⟩
  · exact
      { config := ⟨rfl, h₀₁₅.getElem? (by rw [hstages]; rfl)⟩
        declarations := ⟨rfl, h₀₁₅.getElem? (by rw [hstages]; rfl)⟩
        supplementary := ⟨rfl, h₀₁₅.getElem? (by rw [hstages]; rfl)⟩
        usages := ⟨rfl, h₀₁₅.getElem? (by rw [hstages]; rfl)⟩ }
  · exact
      { artifacts := ⟨artifacts.id, h₁₅.getElem? hartifactsOutput,
          h₁₃₁₅.denotes hartifacts₁₃⟩
        diagnosticsOutput := hdiagnosticsOutput
        diagnostics := h₁₅.denotes hdiagnostics₁₄ }

end TemplateCodegen
