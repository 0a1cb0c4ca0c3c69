import TemplateCodegen.Proofs.Pipeline.Composition

/-!
# Refused items leave the rest of a generation alone

A declaration or a usage that is refused takes part in no later step: no lookup, no claim, no check
for repeats and no grouping sees it. Main statement: two manifests that differ in one refused item,
at whatever position it stands, have the same artifacts, and their diagnostics differ in the item's
own alone, which stand together at one place (`generate_addsRefused`).
-/

namespace TemplateCodegen

/-- Bind declarations one by one. -/
def bindAll (declarations : List Declaration) (config : Config) : List (Reported Definition) :=
  declarations.map fun declaration => bindDefinition declaration config

namespace Manifest

/-- The declarations of the compilation, bound. -/
def declared (manifest : Manifest) (config : Config) : List (Reported Definition) :=
  bindAll manifest.definitions config

/-- The declarations of the referenced libraries, bound. -/
def referenced (manifest : Manifest) (config : Config) : List (Reported Definition) :=
  bindAll manifest.supplementary config

/-- The definitions of a manifest, with each attribute class given to the first that claims it. -/
def claims (manifest : Manifest) (config : Config) : Reported (List Definition) :=
  dedupeDefinitions (Reported.valuesOf (manifest.declared config) ++
    Reported.valuesOf (manifest.referenced config))

/-- The definitions to which the usages of a manifest are bound. -/
def keptDefinitions (manifest : Manifest) (config : Config) : List Definition :=
  (manifest.claims config).value.getD []

/-- The usages of a manifest that name one of these definitions, bound. -/
def bindings (manifest : Manifest) (config : Config) : List (Reported BoundUsage) :=
  manifest.usages.filterMap (bindUsage (manifest.keptDefinitions config))

/-- The diagnostics up to the binding of usages. -/
def found (manifest : Manifest) (config : Config) : List Diagnostic :=
  Reported.diagnosticsOf (manifest.declared config) ++
    Reported.diagnosticsOf (manifest.referenced config) ++ (manifest.claims config).diagnostics ++
    Reported.diagnosticsOf (manifest.bindings config)

/-- The second manifest has one item more than the first, at some position of its list, and the item
is refused; what is found about the item is listed last. -/
inductive AddsRefused (config : Config) (manifest : Manifest) :
    Manifest → List Diagnostic → Prop where
  /-- A declaration of the compilation gives no definition. -/
  | declaration (front behind : List Declaration) (item : Declaration)
      (hsplit : manifest.definitions = front ++ behind)
      (hrefused : (bindDefinition item config).value = none) :
      AddsRefused config manifest { manifest with definitions := front ++ item :: behind }
        (bindDefinition item config).diagnostics
  /-- A declaration of a referenced library gives no definition. -/
  | supplementary (front behind : List Declaration) (item : Declaration)
      (hsplit : manifest.supplementary = front ++ behind)
      (hrefused : (bindDefinition item config).value = none) :
      AddsRefused config manifest { manifest with supplementary := front ++ item :: behind }
        (bindDefinition item config).diagnostics
  /-- A usage names none of the kept definitions. -/
  | unnamed (front behind : List Usage) (item : Usage) (hsplit : manifest.usages = front ++ behind)
      (hunnamed : ∀ definition ∈ manifest.keptDefinitions config,
        definition.isNamedBy item.generator = false) :
      AddsRefused config manifest { manifest with usages := front ++ item :: behind } []
  /-- A usage is refused by the definition that it names. -/
  | usage (front behind : List Usage) (item : Usage) (result : Reported BoundUsage)
      (hsplit : manifest.usages = front ++ behind)
      (hresult : bindUsage (manifest.keptDefinitions config) item = some result)
      (hrefused : result.value = none) :
      AddsRefused config manifest { manifest with usages := front ++ item :: behind }
        result.diagnostics

end Manifest

/-- The second generation has more diagnostics than the first, at one place, and agrees with it in
everything else. -/
structure Generation.Reports (added : List Diagnostic) (one other : Generation) : Prop where
  /-- The artifacts are the same, in the same order. -/
  artifacts : other.artifacts = one.artifacts
  /-- The same keys are reported. -/
  emitted : other.report.emitted = one.report.emitted
  /-- The added diagnostics stand together among the others. -/
  diagnostics : ∃ front behind, one.report.diagnostics = front ++ behind ∧
    other.report.diagnostics = front ++ added ++ behind

namespace Reported

variable {α : Type} {front behind : List (Reported α)} {result : Reported α}

/-- A refused result has no value among the others. -/
theorem valuesOf_refused (h : result.value = none) :
    valuesOf (front ++ result :: behind) = valuesOf (front ++ behind) := by
  simp only [valuesOf, List.filterMap_append, List.filterMap_cons_none h]

/-- The diagnostics of a result stand between those in front of it and those behind. -/
theorem diagnosticsOf_inserted :
    diagnosticsOf (front ++ result :: behind) =
      diagnosticsOf front ++ result.diagnostics ++ diagnosticsOf behind := by
  simp only [diagnosticsOf, List.flatMap_append, List.flatMap_cons, List.append_assoc]

/-- Diagnostics of results put together are put together. -/
theorem diagnosticsOf_append :
    diagnosticsOf (front ++ behind) = diagnosticsOf front ++ diagnosticsOf behind :=
  List.flatMap_append

end Reported

/-- Declarations are bound one by one. -/
theorem bindAll_append (front behind : List Declaration) (config : Config) :
    bindAll (front ++ behind) config = bindAll front config ++ bindAll behind config :=
  List.map_append

/-- What the steps behind the binding of usages make of bound usages: the check for repeats,
rendering and collection. -/
def conclude (bound : List BoundUsage) (config : Config) : Generation :=
  let kept := enforceMultiplicity bound
  let rendered := (kept.value.getD []).map fun usage => usage.render config
  let collected := collectOutputs rendered config
  { artifacts := collected.artifacts
    report :=
      { diagnostics := kept.diagnostics ++ collected.diagnostics
        emitted := collected.artifacts.map Artifact.key } }

variable {manifest larger : Manifest} {config : Config} {added : List Diagnostic}

/-- The later steps see the bound usages only, and their diagnostics come last. -/
theorem sequential_eq_conclude (manifest : Manifest) (config : Config) :
    sequential manifest config =
      let rest := conclude (Reported.valuesOf (manifest.bindings config)) config
      ⟨rest.artifacts,
        ⟨manifest.found config ++ rest.report.diagnostics, rest.report.emitted⟩⟩ := by
  simp only [conclude, ← List.append_assoc]
  rfl

/-- Two generations whose bound usages are the same, and whose diagnostics up to there differ at one
place, differ at that place alone. -/
theorem reports_of_found {front behind : List Diagnostic}
    (hbound : Reported.valuesOf (larger.bindings config) =
      Reported.valuesOf (manifest.bindings config))
    (hfound : manifest.found config = front ++ behind)
    (hfound' : larger.found config = front ++ added ++ behind) :
    Generation.Reports added (sequential manifest config) (sequential larger config) := by
  rw [sequential_eq_conclude, sequential_eq_conclude, hbound, hfound, hfound']
  exact ⟨rfl, rfl, front, behind ++ _, List.append_assoc front behind _,
    List.append_assoc (front ++ added) behind _⟩

/-- Manifests whose claims and usages are the same have the same bindings. -/
theorem bindings_congr (hclaims : larger.claims config = manifest.claims config)
    (husages : larger.usages = manifest.usages) :
    larger.bindings config = manifest.bindings config := by
  simp only [Manifest.bindings, Manifest.keptDefinitions, hclaims, husages]

/-- A refused declaration of the compilation adds what is found about it. -/
theorem reports_declaration {front behind : List Declaration} {item : Declaration}
    (hsplit : manifest.definitions = front ++ behind)
    (hrefused : (bindDefinition item config).value = none) :
    Generation.Reports (bindDefinition item config).diagnostics (sequential manifest config)
      (sequential { manifest with definitions := front ++ item :: behind } config) := by
  have hdeclared : manifest.declared config = bindAll front config ++ bindAll behind config := by
    rw [Manifest.declared, hsplit, bindAll_append]
  have hdeclared' : Manifest.declared { manifest with definitions := front ++ item :: behind }
      config = bindAll front config ++ bindDefinition item config :: bindAll behind config :=
    bindAll_append front (item :: behind) config
  have hclaims : Manifest.claims { manifest with definitions := front ++ item :: behind } config =
      manifest.claims config := by
    rw [Manifest.claims, Manifest.claims, hdeclared, hdeclared', Reported.valuesOf_refused hrefused]
    rfl
  have hbindings := bindings_congr hclaims rfl
  have hfound : manifest.found config = Reported.diagnosticsOf (bindAll front config) ++
      (Reported.diagnosticsOf (bindAll behind config) ++
        Reported.diagnosticsOf (manifest.referenced config) ++
        (manifest.claims config).diagnostics ++
        Reported.diagnosticsOf (manifest.bindings config)) := by
    rw [Manifest.found, hdeclared, Reported.diagnosticsOf_append]
    simp only [List.append_assoc]
  refine reports_of_found (congrArg _ hbindings) hfound ?_
  rw [Manifest.found, hdeclared', hclaims, hbindings, Reported.diagnosticsOf_inserted]
  simp only [List.append_assoc]
  rfl

/-- A refused declaration of a referenced library adds what is found about it. -/
theorem reports_supplementary {front behind : List Declaration} {item : Declaration}
    (hsplit : manifest.supplementary = front ++ behind)
    (hrefused : (bindDefinition item config).value = none) :
    Generation.Reports (bindDefinition item config).diagnostics (sequential manifest config)
      (sequential { manifest with supplementary := front ++ item :: behind } config) := by
  have hreferenced : manifest.referenced config =
      bindAll front config ++ bindAll behind config := by
    rw [Manifest.referenced, hsplit, bindAll_append]
  have hreferenced' : Manifest.referenced
      { manifest with supplementary := front ++ item :: behind } config =
      bindAll front config ++ bindDefinition item config :: bindAll behind config :=
    bindAll_append front (item :: behind) config
  have hclaims : Manifest.claims { manifest with supplementary := front ++ item :: behind }
      config = manifest.claims config := by
    rw [Manifest.claims, Manifest.claims, hreferenced, hreferenced',
      Reported.valuesOf_refused hrefused]
    rfl
  have hbindings := bindings_congr hclaims rfl
  have hfound : manifest.found config = (Reported.diagnosticsOf (manifest.declared config) ++
      Reported.diagnosticsOf (bindAll front config)) ++
      (Reported.diagnosticsOf (bindAll behind config) ++ (manifest.claims config).diagnostics ++
        Reported.diagnosticsOf (manifest.bindings config)) := by
    rw [Manifest.found, hreferenced, Reported.diagnosticsOf_append]
    simp only [List.append_assoc]
  refine reports_of_found (congrArg _ hbindings) hfound ?_
  rw [Manifest.found, hreferenced', hclaims, hbindings, Reported.diagnosticsOf_inserted]
  simp only [List.append_assoc]
  rfl

/-- A usage that names no definition is not bound. -/
theorem bindUsage_eq_none {definitions : List Definition} {usage : Usage}
    (h : ∀ definition ∈ definitions, definition.isNamedBy usage.generator = false) :
    bindUsage definitions usage = none := by
  have hfind : definitions.find? (fun definition => definition.isNamedBy usage.generator) = none :=
    List.find?_eq_none.2 fun definition hmem => by rw [h definition hmem]; exact Bool.false_ne_true
  rw [bindUsage, hfind, Option.map_none]

/-- A usage that names no kept definition adds nothing. -/
theorem reports_unnamed {front behind : List Usage} {item : Usage}
    (hsplit : manifest.usages = front ++ behind)
    (hunnamed : ∀ definition ∈ manifest.keptDefinitions config,
      definition.isNamedBy item.generator = false) :
    Generation.Reports [] (sequential manifest config)
      (sequential { manifest with usages := front ++ item :: behind } config) := by
  have hbindings : Manifest.bindings { manifest with usages := front ++ item :: behind } config =
      manifest.bindings config := by
    rw [Manifest.bindings, Manifest.bindings, hsplit, List.filterMap_append, List.filterMap_append]
    exact congrArg _ (List.filterMap_cons_none (bindUsage_eq_none hunnamed))
  have hfound : Manifest.found { manifest with usages := front ++ item :: behind } config =
      manifest.found config := by
    rw [Manifest.found, Manifest.found, hbindings]
    rfl
  refine reports_of_found (congrArg _ hbindings) (List.append_nil _).symm ?_
  rw [hfound, List.append_nil, List.append_nil]

/-- A usage that is refused by the definition it names adds what is found about it. -/
theorem reports_usage {front behind : List Usage} {item : Usage} {result : Reported BoundUsage}
    (hsplit : manifest.usages = front ++ behind)
    (hresult : bindUsage (manifest.keptDefinitions config) item = some result)
    (hrefused : result.value = none) :
    Generation.Reports result.diagnostics (sequential manifest config)
      (sequential { manifest with usages := front ++ item :: behind } config) := by
  -- the bindings of the usages in front of the refused one and of those behind it
  have hbindings : manifest.bindings config =
      front.filterMap (bindUsage (manifest.keptDefinitions config)) ++
        behind.filterMap (bindUsage (manifest.keptDefinitions config)) := by
    rw [Manifest.bindings, hsplit, List.filterMap_append]
  have hbindings' : Manifest.bindings { manifest with usages := front ++ item :: behind } config =
      front.filterMap (bindUsage (manifest.keptDefinitions config)) ++
        result :: behind.filterMap (bindUsage (manifest.keptDefinitions config)) := by
    rw [Manifest.bindings, List.filterMap_append]
    exact congrArg _ (List.filterMap_cons_some hresult)
  have hvalues : Reported.valuesOf
      (Manifest.bindings { manifest with usages := front ++ item :: behind } config) =
      Reported.valuesOf (manifest.bindings config) := by
    rw [hbindings, hbindings', Reported.valuesOf_refused hrefused]
  have hfound : manifest.found config = (Reported.diagnosticsOf (manifest.declared config) ++
      Reported.diagnosticsOf (manifest.referenced config) ++ (manifest.claims config).diagnostics ++
      Reported.diagnosticsOf (front.filterMap (bindUsage (manifest.keptDefinitions config)))) ++
      Reported.diagnosticsOf (behind.filterMap (bindUsage (manifest.keptDefinitions config))) := by
    rw [Manifest.found, hbindings, Reported.diagnosticsOf_append]
    simp only [List.append_assoc]
  refine reports_of_found hvalues hfound ?_
  rw [Manifest.found, hbindings', Reported.diagnosticsOf_inserted]
  simp only [List.append_assoc]
  rfl

/-- A refused item of a manifest, wherever it stands, changes nothing but the diagnostics: both
generations succeed, with the same artifacts and the same reported keys, and what is found about the
item stands at one place among the diagnostics, which are otherwise the same. -/
theorem generate_addsRefused (h : manifest.AddsRefused config larger added) :
    ∃ one other, generate manifest config .quiet = .ok one ∧
      generate larger config .quiet = .ok other ∧ Generation.Reports added one other := by
  refine ⟨_, _, generate_quiet manifest config, generate_quiet larger config, ?_⟩
  cases h with
  | declaration front behind item hsplit hrefused => exact reports_declaration hsplit hrefused
  | supplementary front behind item hsplit hrefused => exact reports_supplementary hsplit hrefused
  | unnamed front behind item hsplit hunnamed => exact reports_unnamed hsplit hunnamed
  | usage front behind item result hsplit hresult hrefused =>
    exact reports_usage hsplit hresult hrefused

/-- A generator of letters, and one order that gets a letter. -/
def letters : Manifest where
  definitions := [(Declaration.ofIdentifier ⟨"", "GreetGenerator"⟩ .onClass).addMember
    (.ofTemplate "Body" .template "x")]
  usages := [.ofTarget ⟨"Stencil", "Greet"⟩ (.onClass ⟨"", "Order"⟩)]

/-- A generator of the same name that is not sealed. -/
def unsealedLetter : Declaration :=
  { Declaration.ofIdentifier ⟨"", "GreetGenerator"⟩ .onClass with isSealed := false }

/-- A usage with an argument for which there is no parameter. -/
def surplusLetter : Usage :=
  (Usage.ofTarget ⟨"Stencil", "Greet"⟩ (.onClass ⟨"", "Cart"⟩)).addArgument "1"

/-- An unsealed generator in front of one with the same attribute class takes nothing away from it,
and a usage with too many arguments may stand in front of the other one. -/
theorem letters_addsRefused :
    ((bindDefinition unsealedLetter {}).value = none ∧
      (bindDefinition unsealedLetter {}).diagnostics.length = 1 ∧
      ∃ one other, generate letters {} .quiet = .ok one ∧
        generate { letters with definitions := unsealedLetter :: letters.definitions } {} .quiet =
          .ok other ∧
        Generation.Reports (bindDefinition unsealedLetter {}).diagnostics one other) ∧
    ∃ result, bindUsage (letters.keptDefinitions {}) surplusLetter = some result ∧
      result.value = none ∧ result.diagnostics.length = 1 ∧
      ∃ one other, generate letters {} .quiet = .ok one ∧
        generate { letters with usages := surplusLetter :: letters.usages } {} .quiet =
          .ok other ∧
        Generation.Reports result.diagnostics one other := by
  constructor
  · have hrefused : (bindDefinition unsealedLetter {}).value = none := by
      have hnone : (bindDefinition unsealedLetter {}).value.isNone = true := by decide +kernel
      exact Option.isNone_iff_eq_none.1 hnone
    exact ⟨hrefused, by decide +kernel,
      generate_addsRefused (.declaration [] _ unsealedLetter rfl hrefused)⟩
  · have hbound : (bindUsage (letters.keptDefinitions {}) surplusLetter).map
        (fun result => (result.value.isNone, result.diagnostics.length)) = some (true, 1) := by
      decide +kernel
    obtain ⟨result, hresult, hpair⟩ := Option.map_eq_some_iff.1 hbound
    obtain ⟨hnone, hlength⟩ := Prod.mk.inj hpair
    have hrefused := Option.isNone_iff_eq_none.1 hnone
    exact ⟨result, hresult, hrefused, hlength,
      generate_addsRefused (.usage [] _ surplusLetter result rfl hresult hrefused)⟩

end TemplateCodegen
