import TemplateCodegen.Proofs.Output.Collisions
import TemplateCodegen.Proofs.Output.Keys

/-!
# Cosmetic options

Of the options of a generation, binding reads the attribute namespace, and collecting reads the
fragment separator. The header is put in front of texts after everything else has been rendered, so
it reaches neither keys nor the fragments of children; the other options are read by nobody. Main
statement: generations of one manifest under configurations that agree on those two options report
the same and have the same keys; without headers they are the same, and a header stands in front of
the files and the global files it is configured for (`generate_cosmetic`).
-/

namespace TemplateCodegen

/-! ### Binding -/

section Binding

variable {one other : Config}

/-- The attribute class of a declaration depends on the attribute namespace alone. -/
theorem Declaration.attributeClass_congr (h : one.attributeNamespace = other.attributeNamespace)
    (declaration : Declaration) :
    declaration.attributeClass one = declaration.attributeClass other := by
  unfold Declaration.attributeClass
  rw [h]

/-- What a declaration is bound to depends on the attribute namespace alone. -/
theorem bindDefinition_congr (h : one.attributeNamespace = other.attributeNamespace)
    (declaration : Declaration) :
    bindDefinition declaration one = bindDefinition declaration other := by
  have hfinish : ∀ parameters members,
      finishBinding declaration one parameters members =
        finishBinding declaration other parameters members := by
    intro parameters members
    unfold finishBinding
    rw [declaration.attributeClass_congr h]
  rw [bindDefinition_eq, bindDefinition_eq]
  simp only [hfinish]

namespace Manifest

/-- The bindings of a manifest depend on the attribute namespace alone, and so does what is found up
to there. -/
theorem stages_congr (h : one.attributeNamespace = other.attributeNamespace)
    (manifest : Manifest) :
    manifest.bindings one = manifest.bindings other ∧
      manifest.found one = manifest.found other := by
  have hbind : ∀ declarations, bindAll declarations one = bindAll declarations other := by
    intro declarations
    exact List.map_congr_left fun declaration _ => bindDefinition_congr h declaration
  have hclaims : manifest.claims one = manifest.claims other := by
    rw [claims, claims, declared, declared, referenced, referenced, hbind, hbind]
  have hbindings : manifest.bindings one = manifest.bindings other := by
    rw [bindings, bindings, keptDefinitions, keptDefinitions, hclaims]
  refine ⟨hbindings, ?_⟩
  rw [found, found, hbindings, hclaims, declared, declared, referenced, referenced, hbind, hbind]

end Manifest

end Binding

/-! ### Headers -/

/-- The artifact with a header in front of its text. -/
def Artifact.headed (header : String) (artifact : Artifact) : Artifact :=
  { artifact with content := header ++ artifact.content }

/-- What a usage gives, with a header in front of every artifact. The fragments of children have
none. -/
def RenderedUsage.headed (header : String) (rendered : RenderedUsage) : RenderedUsage :=
  { inline := rendered.inline.map fun fragment => { fragment with text := header ++ fragment.text }
    files := rendered.files.map (Artifact.headed header)
    children := rendered.children
    globals := rendered.globals.map fun request =>
      { request with header := header ++ request.header } }

/-- The files and the global files of usages. -/
def ownArtifacts (rendered : List RenderedUsage) : List Artifact :=
  rendered.flatMap RenderedUsage.files ++
    (rendered.flatMap RenderedUsage.globals).map fun request => request.artifact rendered

/-- All artifacts are those of classes and the files and global files. -/
theorem allArtifacts_eq (rendered : List RenderedUsage) (separator : String) :
    allArtifacts rendered separator =
      groupFragments separator (rendered.filterMap RenderedUsage.inline) ++ ownArtifacts rendered :=
  List.append_assoc _ _ _

section Headers

variable {one other : Config}

/-- The fragment of a usage is the one without headers, behind its header. -/
theorem BoundUsage.inlineFragment?_eq_headed (usage : BoundUsage)
    (hseparator : one.fragmentSeparator = other.fragmentSeparator)
    (hother : other.debugHeader = false) :
    usage.inlineFragment? one = (usage.inlineFragment? other).map fun fragment =>
      { fragment with text := usage.header one ++ fragment.text } := by
  unfold inlineFragment?
  rw [usage.header_of_not_debug hother, hseparator]
  cases usage.definition.templates.inline with
  | nil => rfl
  | cons inline rest =>
    cases usage.target.owner? with
    | none => rfl
    | some owner => simp only [Option.map_some, String.empty_append]

/-- A usage gives what it gives without headers, behind its header. -/
theorem BoundUsage.render_eq_headed (usage : BoundUsage)
    (hseparator : one.fragmentSeparator = other.fragmentSeparator)
    (hother : other.debugHeader = false) :
    usage.render one = (usage.render other).headed (usage.header one) := by
  have hfiles : usage.fileArtifact one =
      Artifact.headed (usage.header one) ∘ usage.fileArtifact other := by
    funext file
    simp only [Function.comp, fileArtifact, Artifact.headed, usage.header_of_not_debug hother,
      String.empty_append]
  have hglobals : usage.globalRequest one = (fun request : GlobalRequest =>
      { request with header := usage.header one ++ request.header }) ∘
        usage.globalRequest other := by
    funext file
    simp only [Function.comp, globalRequest, usage.header_of_not_debug hother,
      String.append_empty]
  unfold render RenderedUsage.headed
  rw [usage.inlineFragment?_eq_headed hseparator hother, hfiles, hglobals]
  cases usage.target.owner? with
  | none => simp
  | some owner => simp

variable {usages : List BoundUsage} {header : BoundUsage → String}
  {plain : BoundUsage → RenderedUsage}

/-- Headers change no key. -/
theorem outputKeys_headed :
    outputKeys (usages.map fun usage => (plain usage).headed (header usage)) =
      outputKeys (usages.map plain) := by
  have hinline : ∀ usage, (((plain usage).headed (header usage)).inline).map InlineFragment.key =
      (plain usage).inline.map InlineFragment.key := by
    intro usage
    exact Option.map_map ..
  have hfiles : ∀ usage, (((plain usage).headed (header usage)).files).map Artifact.key =
      (plain usage).files.map Artifact.key := by
    intro usage
    exact List.map_map
  have hglobals : ∀ usage, (((plain usage).headed (header usage)).globals).map GlobalRequest.key =
      (plain usage).globals.map GlobalRequest.key := by
    intro usage
    exact List.map_map
  unfold outputKeys
  simp only [List.map_filterMap, List.map_flatMap, List.filterMap_map, List.flatMap_map,
    Function.comp_def, hinline, hfiles, hglobals]

/-- Headers change no fragment of a child. -/
theorem childrenText_headed (generatorName : String) :
    childrenText (usages.map fun usage => (plain usage).headed (header usage)) generatorName =
      childrenText (usages.map plain) generatorName := by
  unfold childrenText
  rw [List.flatMap_map, List.flatMap_map]
  rfl

/-- A global file stands behind the header of its usage. -/
theorem GlobalRequest.artifact_headed (request : GlobalRequest) (usage : BoundUsage) :
    GlobalRequest.artifact { request with header := header usage ++ request.header }
        (usages.map fun usage => (plain usage).headed (header usage)) =
      (request.artifact (usages.map plain)).headed (header usage) := by
  simp only [artifact, Artifact.headed, childrenText_headed, String.append_assoc]

/-- Each file and each global file of the usages stands behind the header of one of them. -/
theorem ownArtifacts_headed :
    List.Forall₂ (fun headed artifact => ∃ usage ∈ usages, headed = artifact.headed (header usage))
      (ownArtifacts (usages.map fun usage => (plain usage).headed (header usage)))
      (ownArtifacts (usages.map plain)) := by
  have hsame : List.Forall₂ (fun usage usage' => usage = usage' ∧ usage ∈ usages) usages usages :=
    List.forall₂_same.2 fun usage husage => ⟨rfl, husage⟩
  unfold ownArtifacts
  rw [List.map_flatMap, List.map_flatMap, List.flatMap_map, List.flatMap_map, List.flatMap_map,
    List.flatMap_map]
  refine List.rel_append (List.rel_flatMap hsame ?_) (List.rel_flatMap hsame ?_)
  · rintro usage _ ⟨rfl, husage⟩
    exact List.forall₂_map_left_iff.2 (List.forall₂_same.2 fun artifact _ => ⟨usage, husage, rfl⟩)
  · rintro usage _ ⟨rfl, husage⟩
    refine List.forall₂_map_left_iff.2 (List.forall₂_map_left_iff.2
      (List.forall₂_map_right_iff.2 (List.forall₂_same.2 fun request _ => ?_)))
    exact ⟨usage, husage, request.artifact_headed usage⟩

/-- The same keys are asked for with and without headers. -/
theorem outputKeys_render (usages : List BoundUsage)
    (hseparator : one.fragmentSeparator = other.fragmentSeparator) :
    outputKeys (usages.map fun usage => usage.render one) =
      outputKeys (usages.map fun usage => usage.render other) := by
  -- both ask for the keys that are asked for without headers
  have hbare : ∀ config : Config, config.fragmentSeparator = other.fragmentSeparator →
      outputKeys (usages.map fun usage => usage.render config) =
        outputKeys (usages.map fun usage => usage.render { other with debugHeader := false }) := by
    intro config hconfig
    have hrender : ∀ usage : BoundUsage, usage.render config =
        (usage.render { other with debugHeader := false }).headed (usage.header config) :=
      fun usage => usage.render_eq_headed hconfig rfl
    simp only [hrender]
    exact outputKeys_headed
  rw [hbare one hseparator, hbare other rfl]

end Headers

/-! ### Generations -/

/-- Whether artifacts are handed out, and what is reported otherwise, is decided by the keys. -/
theorem collectOutputs_eq (rendered : List RenderedUsage) (config : Config) :
    collectOutputs rendered config =
      match keyCollisions (outputKeys rendered) with
      | [] => ⟨allArtifacts rendered config.fragmentSeparator, []⟩
      | collisions => ⟨[], collisions.map fun finding => finding.located none⟩ := by
  have hkeys := keys_allArtifacts rendered config.fragmentSeparator
  cases hcollisions : keyCollisions (outputKeys rendered) with
  | nil => simp only [collectOutputs, hkeys, hcollisions]
  | cons finding findings => simp only [collectOutputs, hkeys, hcollisions]

/-- What is collected from usages under two configurations that have one fragment separator: the
same is reported, and all artifacts are handed out under both or under none. -/
theorem collectOutputs_render (usages : List BoundUsage) {one other : Config}
    (hseparator : one.fragmentSeparator = other.fragmentSeparator) :
    ∃ artifacts artifacts' diagnostics,
      collectOutputs (usages.map fun usage => usage.render one) one = ⟨artifacts, diagnostics⟩ ∧
      collectOutputs (usages.map fun usage => usage.render other) other =
        ⟨artifacts', diagnostics⟩ ∧
      artifacts.map Artifact.key = artifacts'.map Artifact.key ∧
      (artifacts = [] ∧ artifacts' = [] ∨
        artifacts = allArtifacts (usages.map fun usage => usage.render one)
          one.fragmentSeparator ∧
        artifacts' = allArtifacts (usages.map fun usage => usage.render other)
          other.fragmentSeparator) := by
  have hkeys := outputKeys_render usages hseparator
  rw [collectOutputs_eq, collectOutputs_eq, hkeys]
  cases keyCollisions (outputKeys (usages.map fun usage => usage.render other)) with
  | nil =>
    refine ⟨_, _, _, rfl, rfl, ?_, .inr ⟨rfl, rfl⟩⟩
    rw [keys_allArtifacts, keys_allArtifacts, hkeys]
  | cons finding findings => exact ⟨[], [], _, rfl, rfl, rfl, .inl ⟨rfl, rfl⟩⟩

/-- The files and global files that a manifest asks for. -/
def Manifest.ownArtifacts (manifest : Manifest) (config : Config) : List Artifact :=
  TemplateCodegen.ownArtifacts ((manifest.keptUsages config).map fun usage => usage.render config)

/-- The artifact stands behind the header of one of the usages that a manifest keeps. -/
def Manifest.Heads (manifest : Manifest) (config : Config) (headed artifact : Artifact) : Prop :=
  ∃ usage ∈ manifest.keptUsages config, headed =
    artifact.headed (debugHeader config usage.definition.identifier.fullName usage.context)

/-- What two generations of a manifest have in common. -/
structure SameUpToHeaders (manifest : Manifest) (one other : Config)
    (generation generation' : Generation) : Prop where
  /-- They report the same. -/
  diagnostics : generation.report.diagnostics = generation'.report.diagnostics
  /-- They have the same keys, in the same order. -/
  keys : generation.artifacts.map Artifact.key = generation'.artifacts.map Artifact.key
  /-- Without headers they have the same artifacts. -/
  plain (hone : one.debugHeader = false) (hother : other.debugHeader = false) :
    generation.artifacts = generation'.artifacts
  /-- When one of them has headers and the other has none, then each file and each global file of
  the one is that of the other behind the header of a usage; they come behind the artifacts of
  classes, unless no artifacts are handed out at all. -/
  headed (hone : one.debugHeader = true) (hother : other.debugHeader = false) :
    List.Forall₂ (manifest.Heads one) (manifest.ownArtifacts one) (manifest.ownArtifacts other) ∧
    (generation.artifacts = [] ∧ generation'.artifacts = [] ∨ ∃ classes classes',
      generation.artifacts = classes ++ manifest.ownArtifacts one ∧
      generation'.artifacts = classes' ++ manifest.ownArtifacts other)

/-- Files and global files without headers are the same under two configurations that keep the same
usages, and with headers under one of them each stands behind the header of a usage. -/
theorem Manifest.forall₂_heads {manifest : Manifest} {one other : Config}
    (hkept : manifest.keptUsages one = manifest.keptUsages other)
    (hseparator : one.fragmentSeparator = other.fragmentSeparator)
    (hone : one.debugHeader = true) (hother : other.debugHeader = false) :
    List.Forall₂ (manifest.Heads one) (manifest.ownArtifacts one)
      (manifest.ownArtifacts other) := by
  have hrender : ∀ usage : BoundUsage,
      usage.render one = (usage.render other).headed (usage.header one) :=
    fun usage => usage.render_eq_headed hseparator hother
  have hheader : ∀ usage : BoundUsage, usage.header one =
      debugHeader one usage.definition.identifier.fullName usage.context := by
    intro usage
    rw [BoundUsage.header, if_pos hone]
  unfold ownArtifacts
  simp only [hkept, hrender]
  refine ownArtifacts_headed.imp fun headed artifact hheaded => ?_
  obtain ⟨usage, husage, heq⟩ := hheaded
  exact ⟨usage, hkept ▸ husage, by rw [heq, hheader]⟩

/-- What a generation reports: what was found up to the bindings of usages, then about repeated
usages, and then about keys. -/
theorem diagnostics_sequential (manifest : Manifest) (config : Config) :
    (sequential manifest config).report.diagnostics = manifest.found config ++
      (enforceMultiplicity (Reported.valuesOf (manifest.bindings config))).diagnostics ++
      (collectOutputs ((manifest.keptUsages config).map fun usage => usage.render config)
        config).diagnostics := rfl

/-- Two configurations that agree on the attribute namespace and on the fragment separator give
generations that report the same and have the same keys. Without headers the artifacts are the same;
with headers under one of them, the files and global files differ by a header in front alone. -/
theorem generate_cosmetic (manifest : Manifest) {one other : Config}
    (hnamespace : one.attributeNamespace = other.attributeNamespace)
    (hseparator : one.fragmentSeparator = other.fragmentSeparator) :
    ∃ generation generation', generate manifest one .quiet = .ok generation ∧
      generate manifest other .quiet = .ok generation' ∧
      SameUpToHeaders manifest one other generation generation' := by
  obtain ⟨hbindings, hfound⟩ := Manifest.stages_congr hnamespace manifest
  have hkept : manifest.keptUsages one = manifest.keptUsages other := by
    rw [Manifest.keptUsages, Manifest.keptUsages, hbindings]
  obtain ⟨artifacts, artifacts', diagnostics, hone, hother, hkeys, hall⟩ :=
    collectOutputs_render (manifest.keptUsages other) hseparator
  have hartifacts : (sequential manifest one).artifacts = artifacts := by
    rw [artifacts_sequential, hkept, hone]
  have hartifacts' : (sequential manifest other).artifacts = artifacts' := by
    rw [artifacts_sequential, hother]
  refine ⟨_, _, generate_quiet manifest one, generate_quiet manifest other, ?_, ?_, ?_, ?_⟩
  · rw [diagnostics_sequential, diagnostics_sequential, hkept, hbindings, hfound, hone, hother]
  · rw [hartifacts, hartifacts', hkeys]
  · intro hplain hplain'
    rw [hartifacts, hartifacts']
    have hrender : ∀ usage : BoundUsage, usage.render one = usage.render other := by
      intro usage
      have hsame := usage.render_eq_headed (rfl : other.fragmentSeparator = _) hplain'
      rw [usage.header_of_not_debug hplain'] at hsame
      rw [usage.render_eq_headed hseparator hplain', usage.header_of_not_debug hplain, ← hsame]
    simp only [hrender, hseparator] at hall
    rcases hall with ⟨hnone, hnone'⟩ | ⟨hone, hother⟩
    · rw [hnone, hnone']
    · rw [hone, hother]
  · intro hheaded hplain
    refine ⟨Manifest.forall₂_heads hkept hseparator hheaded hplain, ?_⟩
    rw [hartifacts, hartifacts']
    refine hall.imp id ?_
    rintro ⟨hone, hother⟩
    rw [hone, hother, allArtifacts_eq, allArtifacts_eq]
    unfold Manifest.ownArtifacts
    rw [hkept]
    exact ⟨_, _, rfl, rfl⟩

/-- A generator of classes with a fragment and a file. -/
def ledgers : Manifest where
  definitions := [((Declaration.ofIdentifier ⟨"Gen", "LedgerGenerator"⟩ .onClass).addMember
    (.ofTemplate "Body" .template "body")).addMember
    (.ofTemplate "Page" (.fileTemplate "page") "page")]
  usages := [.ofTarget ⟨"Stencil", "Ledger"⟩ (.onClass ⟨"", "Order"⟩)]

/-- Headers with another comment marker. -/
def commented : Config := { debugHeader := true, commentMarker := "--" }

/-- No headers, another extension, and work side by side. -/
def uncommented : Config := { isParallel := true, fileExtension := "txt" }

/-- With the header in front of it, the file is otherwise as it is without. -/
theorem ledgers_cosmetic :
    ∃ generation generation', generate ledgers commented .quiet = .ok generation ∧
      generate ledgers uncommented .quiet = .ok generation' ∧
      SameUpToHeaders ledgers commented uncommented generation generation' ∧
      generation'.artifacts = [⟨"Order", "body"⟩, ⟨"page", "page"⟩] := by
  have hcosmetic := @generate_cosmetic ledgers commented uncommented rfl rfl
  obtain ⟨generation, generation', hone, hother, hsame⟩ := hcosmetic
  refine ⟨generation, generation', hone, hother, hsame, ?_⟩
  rw [generate_quiet] at hother
  rw [← Except.ok.inj hother]
  decide +kernel

end TemplateCodegen
