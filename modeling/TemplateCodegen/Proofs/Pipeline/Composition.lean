import TemplateCodegen.Proofs.Pipeline.Pass

/-!
# A single generation is the plain composition

A fresh pipeline that holds a manifest remembers nothing, so no test of equality can put one value
in the place of another during its first pass. Main statement: a generation that is not cancelled is
the plain composition of binding, claiming, checking, rendering and collecting, and one that nobody
stops is not cancelled (`generate_eq_sequential`).
-/

namespace TemplateCodegen

open Incremental

namespace Pipeline

/-- The pipeline has made no pass, and its sources hold a manifest and a configuration. -/
structure IsFresh (pipeline : Pipeline) (manifest : Manifest) (config : Config) : Prop where
  /-- The handles name the stages of the generation graph. -/
  wired : pipeline.IsWired
  /-- The nodes remember nothing. -/
  blank : ∀ node ∈ pipeline.graph.nodes, node.IsBlank
  /-- The sources hold the manifest and the configuration. -/
  supplied : ∃ supply, IsSupplied supply pipeline.graph.nodes ∧ Supplies manifest config supply
  /-- No stage is cancelled but by a poll. -/
  willing : ∀ stage ∈ pipeline.graph.stages, stage.IsWilling

variable {pipeline : Pipeline} {manifest : Manifest} {config : Config}

/-- A pipeline without declarations and usages is fresh. -/
theorem ofConfig_isFresh (config : Config) : (ofConfig config).IsFresh {} config where
  wired := ofConfig_isWired config
  blank := ofConfig_isBlank config
  supplied := ⟨freshSupply config, ofConfig_isSupplied config, supplies_fresh config⟩
  willing stage hstage := (ofConfig_allows .all config stage hstage).2.isWilling

/-- Values may be supplied to a source that holds none. -/
theorem IsFresh.setValues (h : pipeline.IsFresh manifest config) {changed : Manifest}
    {kind : Kind Traffic} {id : Nat} {values : List kind.Val}
    (hchange : ∀ supply, Supplies manifest config supply →
      supply id kind = [] ∧ Supplies changed config (supply.set id kind values)) :
    IsFresh { pipeline with graph := (pipeline.graph.setValues kind id values).1 } changed
      config := by
  have hcontinues := pipeline.graph.continues_setValues kind id values
  refine ⟨h.wired.continues rfl hcontinues, ?_, ?_, ?_⟩
  · rcases pipeline.graph.setValues_cases kind id values with ⟨inner, _, heq⟩ | ⟨_, heq⟩
    · rw [heq]
      intro node hnode
      rcases List.mem_or_eq_of_mem_set hnode with hmem | rfl
      · exact h.blank node hmem
      · trivial
    · rw [heq]
      exact h.blank
  · obtain ⟨supply, hsupplied, hsupplies⟩ := h.supplied
    obtain ⟨hempty, hsupplies'⟩ := hchange supply hsupplies
    refine ⟨supply.set id kind values, hsupplied.setValues fun inner hinner => ?_, hsupplies'⟩
    exact eq_of_nil_beq ((hsupplied id kind inner hinner).trans hempty)
  · rw [hcontinues.stages]
    exact h.willing

/-- Declarations of the compilation may be supplied when there are none. -/
theorem IsFresh.setDeclarations (h : pipeline.IsFresh manifest config)
    (hempty : manifest.definitions = []) (declarations : List Declaration) :
    (pipeline.setDeclarations declarations).1.IsFresh
      { manifest with definitions := declarations } config := by
  refine h.setValues fun supply hsupplies => ?_
  rw [h.wired.sources.declarations.1]
  exact ⟨hsupplies.declarations.trans hempty, hsupplies.setDeclarations declarations⟩

/-- Declarations of referenced libraries may be supplied when there are none. -/
theorem IsFresh.setSupplementary (h : pipeline.IsFresh manifest config)
    (hempty : manifest.supplementary = []) (declarations : List Declaration) :
    (pipeline.setSupplementary declarations).1.IsFresh
      { manifest with supplementary := declarations } config := by
  refine h.setValues fun supply hsupplies => ?_
  rw [h.wired.sources.supplementary.1]
  exact ⟨hsupplies.supplementary.trans hempty, hsupplies.setSupplementary declarations⟩

/-- Usages may be supplied when there are none. -/
theorem IsFresh.setUsages (h : pipeline.IsFresh manifest config) (hempty : manifest.usages = [])
    (usages : List Usage) :
    (pipeline.setUsages usages).1.IsFresh { manifest with usages } config := by
  refine h.setValues fun supply hsupplies => ?_
  rw [h.wired.sources.usages.1]
  exact ⟨hsupplies.usages.trans hempty, hsupplies.setUsages usages⟩

end Pipeline

/-- A pipeline for a manifest is a pipeline without records that is supplied with the manifest. -/
theorem Manifest.pipeline_eq (manifest : Manifest) (config : Config) :
    manifest.pipeline config =
      ((((Pipeline.ofConfig config).setDeclarations manifest.definitions).1.setSupplementary
        manifest.supplementary).1.setUsages manifest.usages).1 := by
  unfold Manifest.pipeline
  generalize Pipeline.ofConfig config = pipeline
  rfl

/-- A pipeline for a manifest is fresh and holds it. -/
theorem Manifest.pipeline_isFresh (manifest : Manifest) (config : Config) :
    (manifest.pipeline config).IsFresh manifest config := by
  rw [manifest.pipeline_eq]
  have hdeclared := (Pipeline.ofConfig_isFresh config).setDeclarations rfl manifest.definitions
  exact (hdeclared.setSupplementary rfl _).setUsages rfl _

/-- Every artifact that is given to the sink is kept. -/
theorem emitAll_keepArtifact (artifacts kept : List Artifact) :
    (Pipeline.emitAll keepArtifact artifacts).run kept = (.ok (), kept ++ artifacts) := by
  induction artifacts generalizing kept with
  | nil =>
    rw [List.append_nil]
    rfl
  | cons artifact rest ih =>
    change (Pipeline.emitAll keepArtifact rest).run (kept ++ [artifact]) = _
    rw [ih, List.append_assoc]
    rfl

/-- A first update that is not cancelled leaves the diagnostics and the artifacts of the plain
composition, and no artifacts have been taken. -/
theorem Pipeline.IsFresh.update_ok {pipeline : Pipeline} {manifest : Manifest} {config : Config}
    (h : pipeline.IsFresh manifest config) {signal : Signal}
    (hok : (pipeline.update signal).2.2 = .ok ()) :
    (pipeline.update signal).1.diagnostics = (sequential manifest config).report.diagnostics ∧
      (pipeline.update signal).1.collected = (sequential manifest config).artifacts ∧
      ∃ node slot, (pipeline.update signal).1.Delivers node slot ∧ node.taken = none := by
  obtain ⟨supply, hsupplied, hsupplies⟩ := h.supplied
  obtain ⟨hdiagnostics, hcollected⟩ := h.wired.update_ok hsupplies hok
    fun summary hrun id hwanted =>
      StageGraph.first_run_ok_batch? h.blank h.wired.linked hsupplied hrun hwanted
  obtain ⟨node, slot, hdelivers⟩ := h.wired.exists_delivers
  have hnode := h.wired.output_update hdelivers.node_at signal
  rw [← pipeline.wiring_update signal] at hnode
  obtain ⟨slot', hslot', _⟩ := (pipeline.continues_update signal).exists_slot? hdelivers.slot_at
  exact ⟨hdiagnostics, hcollected, node, slot', ⟨hnode, hslot'⟩,
    h.blank _ (List.mem_of_getElem? hdelivers.node_at)⟩

/-- The keys reported by the plain composition are those of its artifacts. -/
theorem sequential_eq (manifest : Manifest) (config : Config) :
    sequential manifest config =
      ⟨(sequential manifest config).artifacts,
        ⟨(sequential manifest config).report.diagnostics,
          (sequential manifest config).artifacts.map Artifact.key⟩⟩ := rfl

/-- A generation is the plain composition, or its only pass was cancelled. -/
theorem generate_cases (manifest : Manifest) (config : Config) (signal : Signal) :
    generate manifest config signal = .ok (sequential manifest config) ∨
      (generate manifest config signal = .error .cancelled ∧
        ∃ error, ((manifest.pipeline config).update signal).2.2 = .error error) := by
  have hfresh := manifest.pipeline_isFresh config
  unfold generate
  generalize manifest.pipeline config = pipeline at hfresh ⊢
  have hupdate : (pipeline.update signal).2.2 = .ok () → _ := hfresh.update_ok
  have hcomplete : (pipeline.update signal).2.2 = .ok () → _ := Pipeline.isComplete_update
  have hends := pipeline.run_ends keepArtifact signal []
  generalize (pipeline.run keepArtifact signal).run [] = result at hends ⊢
  generalize houtcome : (pipeline.update signal).2.2 = outcome at hends hupdate hcomplete ⊢
  cases hends with
  | cancelled error => exact .inr ⟨rfl, error, rfl⟩
  | idle hpending =>
    obtain ⟨hdiagnostics, hcollected, node, slot, hdelivers, htaken⟩ := hupdate rfl
    have hnone : (sequential manifest config).artifacts = [] := by
      rw [← hcollected, hdelivers.collected_eq]
      rcases hdelivers.of_idle (hcomplete rfl) hpending with hmarked | hempty
      · rw [htaken] at hmarked
        cases hmarked
      · rw [hempty]
        rfl
    refine .inl (congrArg Except.ok ?_)
    rw [sequential_eq, hdiagnostics, hnone]
    rfl
  | @delivered pending artifacts state' hpending hvalue hemit =>
    obtain ⟨hdiagnostics, hcollected, node, slot, hdelivers, _⟩ := hupdate rfl
    have hartifacts : artifacts = (sequential manifest config).artifacts := by
      rw [← hcollected, ← hvalue]
      exact (hdelivers.of_pending hpending).2.1
    rw [emitAll_keepArtifact, List.nil_append] at hemit
    obtain rfl : artifacts = state' := congrArg Prod.snd hemit
    refine .inl (congrArg Except.ok ?_)
    rw [sequential_eq, hdiagnostics, ← hartifacts]
  | @failed pending artifacts error state' hpending hvalue hemit => exact nomatch error

/-- A generation that nobody stops is the plain composition. -/
theorem generate_quiet (manifest : Manifest) (config : Config) :
    generate manifest config .quiet = .ok (sequential manifest config) := by
  rcases generate_cases manifest config .quiet with hok | ⟨_, error, herror⟩
  · exact hok
  · have hpasses := Pipeline.update_quiet (manifest.pipeline_isFresh config).willing
    rw [herror] at hpasses
    cases hpasses

/-- A generation is the plain composition of its steps: it gives the artifacts that are collected,
reports their keys, and puts the diagnostics of the steps one behind the other. One that nobody
stops is never cancelled, and any other one either gives the same or is. -/
theorem generate_eq_sequential (manifest : Manifest) (config : Config) :
    generate manifest config .quiet = .ok (sequential manifest config) ∧
      ∀ signal, generate manifest config signal = .ok (sequential manifest config) ∨
        generate manifest config signal = .error .cancelled := by
  refine ⟨generate_quiet manifest config, fun signal => ?_⟩
  rcases generate_cases manifest config signal with hok | ⟨hcancelled, _⟩
  · exact .inl hok
  · exact .inr hcancelled

end TemplateCodegen
