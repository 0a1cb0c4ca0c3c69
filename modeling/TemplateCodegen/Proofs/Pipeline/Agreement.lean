import TemplateCodegen.Proofs.Pipeline.Composition
import TemplateCodegen.Proofs.Pipeline.Journal
import TemplateCodegen.Proofs.Pipeline.Spelling

/-!
# Passes agree with single generations

A pass agrees with a single generation when it reports the diagnostics that the generation gives for
the snapshot supplied last, and the pipeline then holds the artifacts of that generation. Every pass
of a faithful host agrees (`Journal.Reachable.agrees`). A host whose naming spells one class in two
ways has a pass that does not, so the passes agree in all histories exactly where the naming is
unambiguous (`Journal.agrees_iff_isUnambiguous`).
-/

namespace TemplateCodegen

open Incremental

namespace Journal

/-- Every pass that is reported gives the diagnostics and leaves the artifacts of a single
generation from the snapshot supplied last. -/
def Agrees (journal : Journal) : Prop :=
  ∀ (σ ε : Type) (emit : Artifact → StateM σ (Except ε Unit)) (state : σ) (signal : Signal)
    (pipeline : Pipeline) (report : Report) (calls : List (Artifact × Bool)),
    journal.attempt emit state signal = (pipeline, .ok report, calls) →
      ∃ generation, generate journal.manifest journal.config .quiet = .ok generation ∧
        report.diagnostics = generation.report.diagnostics ∧
        pipeline.collected = generation.artifacts

/-- The invariant of the histories of a host: the nodes may rely on what they remember, and the
sources hold the snapshot supplied last. -/
structure Tracked (host : Host) (journal : Journal) : Prop where
  /-- The handles name the stages of the generation graph. -/
  wired : journal.pipeline.IsWired
  /-- No stage is cancelled but by a poll. -/
  willing : ∀ stage ∈ journal.pipeline.graph.stages, stage.IsWilling
  /-- The nodes may rely on what they remember. -/
  settled : Settled host.admission journal.pipeline.graph.nodes
  /-- The sources hold the snapshot. -/
  supplied : ∃ supply, IsSupplied supply journal.pipeline.graph.nodes ∧
    Supplies journal.manifest journal.config supply

variable {host : Host} {journal : Journal}

/-- A fresh pipeline tracks its configuration. -/
theorem Tracked.ofConfig {config : Config} (h : host.config config) :
    (ofConfig config).Tracked host where
  wired := Pipeline.ofConfig_isWired config
  willing stage hstage := (Pipeline.ofConfig_allows host config stage hstage).2.isWilling
  settled := by
    have hallows := Pipeline.ofConfig_allows host config
    refine Settled.of_isBlank (Pipeline.ofConfig_isBlank config)
      (Pipeline.ofConfig_isWired config).linked
      (fun node hnode => (hallows node.stage (List.mem_map_of_mem hnode)).1)
      (Pipeline.ofConfig_isSupplied config) fun id kind value hvalue => ?_
    unfold freshSupply Supply.set at hvalue
    split at hvalue
    · rename_i hplace
      obtain ⟨rfl, rfl⟩ := hplace
      rw [List.mem_singleton.mp hvalue]
      exact h
    · cases hvalue
  supplied := ⟨freshSupply config, Pipeline.ofConfig_isSupplied config,
    Pipeline.supplies_fresh config⟩

/-- The graph may go on where the nodes still may rely on what they remember and the sources still
hold the snapshot. -/
theorem Tracked.continues (h : journal.Tracked host) {next : Journal}
    (hwiring : next.pipeline.wiring = journal.pipeline.wiring)
    (hcontinues : journal.pipeline.graph.Continues next.pipeline.graph)
    (hsettled : Settled host.admission next.pipeline.graph.nodes)
    (hsupplied : ∃ supply, IsSupplied supply next.pipeline.graph.nodes ∧
      Supplies next.manifest next.config supply) : next.Tracked host where
  wired := h.wired.continues hwiring hcontinues
  willing := by
    rw [hcontinues.stages]
    exact h.willing
  settled := hsettled
  supplied := hsupplied

/-- Admitted values may be supplied to a source. -/
theorem Tracked.setValues (h : journal.Tracked host) (hfaithful : host.IsFaithful)
    {next : Journal} {kind : Kind Traffic} {id : Nat} {values : List kind.Val}
    (hpipeline : next.pipeline =
      { journal.pipeline with graph := (journal.pipeline.graph.setValues kind id values).1 })
    (hvalues : ∀ value ∈ values, kind.Admits host.admission value)
    (hsupplies : ∀ supply, Supplies journal.manifest journal.config supply →
      Supplies next.manifest next.config (supply.set id kind values)) : next.Tracked host := by
  obtain ⟨supply, hsupplied, hheld⟩ := h.supplied
  refine h.continues ?_ ?_ ?_ ⟨supply.set id kind values, ?_, hsupplies supply hheld⟩
  · rw [hpipeline]
  · rw [hpipeline]
    exact journal.pipeline.graph.continues_setValues kind id values
  · rw [hpipeline]
    exact h.settled.setValues hvalues
  · rw [hpipeline]
    refine hsupplied.setValues fun inner hinner hequal => ?_
    exact hfaithful.admission.values_eq_of_beq
      (h.settled.holds _ (List.mem_of_getElem? hinner) ⟨kind, inner.slot⟩ rfl) hvalues hequal

/-- An update keeps the invariant. -/
theorem Tracked.update (h : journal.Tracked host) (hfaithful : host.IsFaithful) (signal : Signal) :
    Tracked host { journal with pipeline := (journal.pipeline.update signal).1 } := by
  obtain ⟨supply, hsupplied, hsupplies⟩ := h.supplied
  refine h.continues (journal.pipeline.wiring_update signal)
    (journal.pipeline.continues_update signal) ?_ ⟨supply, ?_, hsupplies⟩
  · have hrun := h.settled.run hfaithful.admission signal
    rcases journal.pipeline.update_cases signal with ⟨error, _, heq⟩ | ⟨summary, _, heq⟩
    · rw [heq]
      exact hrun
    · rw [heq]
      exact hrun.take journal.pipeline.wiring.diagnosticsOutput
  · have hrun := hsupplied.run signal
    rcases journal.pipeline.update_cases signal with ⟨error, _, heq⟩ | ⟨summary, _, heq⟩
    · rw [heq]
      exact hrun
    · rw [heq]
      exact hrun.take journal.pipeline.wiring.diagnosticsOutput

/-- Marking artifacts as delivered keeps the invariant. -/
theorem Tracked.commitArtifacts (h : journal.Tracked host)
    (pending : Pending Traffic.artifact.listKind) :
    Tracked host { journal with pipeline := journal.pipeline.commitArtifacts pending } := by
  obtain ⟨supply, hsupplied, hsupplies⟩ := h.supplied
  exact h.continues rfl (StageGraph.continues_commit _ _ _)
    (h.settled.commit journal.pipeline.wiring.artifacts pending)
    ⟨supply, hsupplied.commit journal.pipeline.wiring.artifacts pending, hsupplies⟩

/-- Every operation of a faithful host keeps the invariant. -/
theorem Tracked.step (h : journal.Tracked host) (hfaithful : host.IsFaithful) {next : Journal}
    (hstep : journal.Step host next) : next.Tracked host := by
  have hsources := h.wired.sources
  cases hstep with
  | setDeclarations declarations hallowed =>
    refine h.setValues hfaithful rfl hallowed fun supply hsupplies => ?_
    rw [hsources.declarations.1]
    exact hsupplies.setDeclarations declarations
  | setSupplementary declarations hallowed =>
    refine h.setValues hfaithful rfl hallowed fun supply hsupplies => ?_
    rw [hsources.supplementary.1]
    exact hsupplies.setSupplementary declarations
  | setUsages usages hallowed =>
    refine h.setValues hfaithful rfl hallowed fun supply hsupplies => ?_
    rw [hsources.usages.1]
    exact hsupplies.setUsages usages
  | setConfig config hallowed =>
    have hparallel : Tracked host { journal with
        pipeline := { journal.pipeline with
          graph := journal.pipeline.graph.setParallel config.isParallel } } :=
      h.continues rfl ⟨rfl, (StageGraph.Continues.refl _).advances⟩ h.settled h.supplied
    refine hparallel.setValues hfaithful rfl ?_ fun supply hsupplies => ?_
    · intro value hvalue
      rw [List.mem_singleton.mp hvalue]
      exact hallowed
    · rw [hsources.config.1]
      exact hsupplies.setConfig config
  | pass emit state signal =>
    have hupdate := h.update hfaithful signal
    have hattempt : Tracked host
        { journal with pipeline := (journal.attempt emit state signal).1 } := by
      rcases journal.attempt_ends emit state signal with ⟨heq | ⟨pending, heq⟩, _⟩
      · rw [heq]
        exact hupdate
      · rw [heq]
        exact hupdate.commitArtifacts pending
    rw [journal.pass_eq]
    exact ⟨hattempt.wired, hattempt.willing, hattempt.settled, hattempt.supplied⟩

/-- Every history of a faithful host keeps the invariant. -/
theorem Reachable.tracked (h : journal.Reachable host) (hfaithful : host.IsFaithful) :
    journal.Tracked host := by
  induction h with
  | fresh config hconfig => exact Tracked.ofConfig hconfig
  | step _ hstep ih => exact ih.step hfaithful hstep

/-- Where the nodes may rely on what they remember and values are compared by true equality, passes
agree. -/
theorem Tracked.agrees (h : journal.Tracked host) (hfaithful : host.IsFaithful) :
    journal.Agrees := by
  intro σ ε emit state signal pipeline report calls hattempt
  obtain ⟨hpipeline, hreport⟩ := journal.attempt_ends emit state signal
  rw [hattempt] at hpipeline hreport
  obtain ⟨hok, hdiagnostics⟩ := hreport report rfl
  obtain ⟨supply, hsupplied, hsupplies⟩ := h.supplied
  obtain ⟨hfound, hcollected⟩ := h.wired.update_ok hsupplies hok
    fun summary hrun id hwanted =>
      h.settled.run_ok_batch? hfaithful.admission hsupplied hrun hwanted
  refine ⟨sequential journal.manifest journal.config, generate_quiet _ _,
    hdiagnostics.trans hfound, ?_⟩
  rcases hpipeline with rfl | ⟨pending, rfl⟩
  · exact hcollected
  · have hupdate := h.update hfaithful signal
    exact (hupdate.wired.collected_commitArtifacts pending).trans hcollected

/-- All passes of a faithful host agree. -/
theorem Reachable.agrees (h : journal.Reachable host) (hfaithful : host.IsFaithful) :
    journal.Agrees :=
  (h.tracked hfaithful).agrees hfaithful

/-- A pass that nobody stops is reported when its sink takes everything. -/
theorem Tracked.exists_report (h : journal.Tracked host) {σ : Type}
    (emit : Artifact → StateM σ (Except Empty Unit)) (state : σ) :
    ∃ pipeline report calls, journal.attempt emit state .quiet = (pipeline, .ok report, calls) := by
  have hends := journal.pipeline.run_ends (recording emit) .quiet (state, [])
  unfold attempt
  generalize (journal.pipeline.run (recording emit) .quiet).run (state, []) = result at hends ⊢
  rw [Pipeline.update_quiet h.willing] at hends
  cases hends with
  | idle hpending => exact ⟨_, _, _, rfl⟩
  | delivered hpending hvalue hemit => exact ⟨_, _, _, rfl⟩
  | @failed pending artifacts error state' hpending hvalue hemit => exact nomatch error

end Journal

/-! ## Two spellings of a class -/

/-- A class that is not bound because it can be inherited from. Its attribute class is not generic.
-/
def Declaration.unsealed (identifier : ClassIdentifier) : Declaration :=
  { identifier
    kind := .onClass
    isSealed := false
    nameOverride := some { name := "MarkedAttribute" } }

/-- The attribute class of an unsealed class. -/
theorem Declaration.attributeClass_unsealed (identifier : ClassIdentifier) (config : Config) :
    (unsealed identifier).attributeClass config =
      ⟨config.attributeNamespace, "MarkedAttribute"⟩ := by
  have hname : Text.trimmed "MarkedAttribute" = "MarkedAttribute" := by decide +kernel
  have hspace : Text.trimmed "" = "" := by decide +kernel
  have hsuffix : ClassIdentifier.stripEnd? id ClassIdentifier.attributeSuffix
      (ClassIdentifier.baseOf "MarkedAttribute".toList) = some "Marked".toList := by decide +kernel
  have hblank : "MarkedAttribute" ≠ "" := by decide
  simp only [Declaration.attributeClass, unsealed, Option.getD_none, hspace, hname, if_true,
    if_neg hblank, ClassIdentifier.withAttributeSuffix, hsuffix]

/-- A host may supply an unsealed class whose identifier it may spell. -/
theorem Host.spelling_unsealed {configs : Config → Prop} {names : ClassIdentifier → Prop}
    {identifier : ClassIdentifier} (h : identifier.IsSpelled names) :
    (Host.spelling configs names).declaration (.unsealed identifier) := by
  refine ⟨h, fun config _ => .inl ?_⟩
  rw [Declaration.attributeClass_unsealed]
  change ClassIdentifier.arityOf "MarkedAttribute".toList = 0
  decide

/-- A single generation from an unsealed class reports it as it is spelled. -/
theorem diagnostics_unsealed (identifier : ClassIdentifier) (config : Config) :
    (sequential { definitions := [.unsealed identifier] } config).report.diagnostics =
      [(Finding.notSealed identifier.fullName).located none] := by
  have hname : Text.isBlankText "MarkedAttribute" = false := by decide +kernel
  have hfindings : (Declaration.unsealed identifier).classFindings =
      [Finding.notSealed identifier.fullName] := by
    simp [Declaration.classFindings, Declaration.hasExplicitName,
      Declaration.unsealed, hname]
  have hbound : bindDefinition (.unsealed identifier) config =
      ⟨none, [(Finding.notSealed identifier.fullName).located none]⟩ := by
    rw [bindDefinition_eq, hfindings]
    rfl
  unfold sequential
  rw [List.map_singleton, hbound]
  rfl

/-- Identifiers of one class that are shown alike in a finding are the same. -/
theorem ClassIdentifier.eq_of_notSealed {one other : ClassIdentifier}
    (hsame : one.isSameClass other = true)
    (h : (Finding.notSealed one.fullName).located none =
      (Finding.notSealed other.fullName).located none) : one = other := by
  have hmessage : "generator '" ++ one.fullName ++ "' must be sealed" =
    "generator '" ++ other.fullName ++ "' must be sealed" := congrArg Diagnostic.message h
  have hfull : one.fullName = other.fullName :=
    (String.append_right_inj _).mp ((String.append_left_inj _).mp hmessage)
  have hspace := namespaceName_eq_of_isSameClass hsame
  refine eq_of_names hspace ?_
  unfold fullName at hfull
  rw [hspace] at hfull
  split at hfull
  · exact hfull
  · exact (String.append_right_inj _).mp hfull

/-- Unsealed classes count as equal when their identifiers do. -/
theorem Declaration.unsealed_beq {one other : ClassIdentifier} (h : (one == other) = true) :
    (unsealed one == unsealed other) = true := by
  change instBEqDeclaration.beq _ _ = true
  simp [instBEqDeclaration.beq, unsealed, h]

namespace Journal

variable {host : Host} {journal : Journal}

/-- The history of an unsealed class that is declared in one spelling and then in another. -/
def respelled (config : Config) (one other : ClassIdentifier) : Journal :=
  ((ofConfig config).setDeclarations [.unsealed one]).setDeclarations [.unsealed other]

/-- A host that may supply an unsealed class may declare it. -/
theorem Reachable.declare (h : journal.Reachable host) {identifier : ClassIdentifier}
    (hdeclaration : host.declaration (.unsealed identifier)) :
    (journal.setDeclarations [.unsealed identifier]).Reachable host := by
  refine h.step (.setDeclarations [.unsealed identifier] fun declaration hmem => ?_)
  rw [List.mem_singleton.mp hmem]
  exact hdeclaration

/-- A host that may supply both spellings has the history. -/
theorem respelled_reachable {config : Config} {one other : ClassIdentifier}
    (hconfig : host.config config) (hone : host.declaration (.unsealed one))
    (hother : host.declaration (.unsealed other)) : (respelled config one other).Reachable host :=
  ((Reachable.fresh config hconfig).declare hone).declare hother

/-- Declarations that count as equal to those supplied last leave the pipeline. -/
theorem Tracked.setDeclarations_of_beq (h : journal.Tracked host) {declarations : List Declaration}
    (hbeq : (journal.manifest.definitions == declarations) = true) :
    (journal.setDeclarations declarations).pipeline = journal.pipeline := by
  obtain ⟨supply, hsupplied, hsupplies⟩ := h.supplied
  have hgraph : (journal.pipeline.graph.setValues Traffic.declaration.kind
      journal.pipeline.wiring.declarations.id declarations).1 = journal.pipeline.graph := by
    refine StageGraph.setValues_of_beq fun inner hinner => ?_
    rw [h.wired.sources.declarations.1] at hinner
    rw [hsupplied 1 Traffic.declaration.kind inner hinner, hsupplies.declarations]
    exact hbeq
  change { journal.pipeline with graph := (journal.pipeline.graph.setValues Traffic.declaration.kind
      journal.pipeline.wiring.declarations.id declarations).1 } = journal.pipeline
  rw [hgraph]

/-- Behind two spellings of a class the pipeline reports the first one. -/
theorem respelled_not_agrees (config : Config) {one other : ClassIdentifier}
    (hbeq : (one == other) = true) (hne : one ≠ other) : ¬(respelled config one other).Agrees := by
  intro hagrees
  have hfaithful : (Host.spelling (· = config) (· = one)).IsFaithful :=
    Host.isFaithful_spelling fun _ _ hone hother _ => hone.trans hother.symm
  have hfresh : (ofConfig config).Reachable (.spelling (· = config) (· = one)) :=
    .fresh config rfl
  have hdeclared := (hfresh.declare (Host.spelling_unsealed (.inr rfl))).tracked hfaithful
  have hpipeline : (respelled config one other).pipeline =
      ((ofConfig config).setDeclarations [.unsealed one]).pipeline :=
    hdeclared.setDeclarations_of_beq (Bool.and_eq_true_iff.mpr ⟨Declaration.unsealed_beq hbeq, rfl⟩)
  obtain ⟨pipeline, report, calls, hattempt⟩ :=
    hdeclared.exists_report (σ := Unit) (fun _ => pure (.ok ())) ()
  -- One and the same pass would have to agree with either spelling.
  obtain ⟨generation, hgenerate, hfirst, _⟩ :=
    hdeclared.agrees hfaithful Unit Empty _ () .quiet pipeline report calls hattempt
  unfold attempt at hattempt
  rw [← hpipeline] at hattempt
  obtain ⟨generation', hgenerate', hsecond, _⟩ :=
    hagrees Unit Empty _ () .quiet pipeline report calls hattempt
  rw [generate_quiet] at hgenerate hgenerate'
  cases hgenerate
  cases hgenerate'
  have hfindings : [(Finding.notSealed one.fullName).located none] =
      [(Finding.notSealed other.fullName).located none] :=
    (diagnostics_unsealed one config).symm.trans
      (hfirst.symm.trans (hsecond.trans (diagnostics_unsealed other config)))
  exact hne (ClassIdentifier.eq_of_notSealed (ClassIdentifier.isSameClass_of_beq hbeq)
    (List.singleton_inj.mp hfindings))

/-- All passes agree, in all histories of a host whose classes are spelled as a naming allows, if
and only if the naming spells every class in one way. -/
theorem agrees_iff_isUnambiguous (configs : Config → Prop) (config : Config)
    (hconfig : configs config) (names : ClassIdentifier → Prop) :
    (∀ journal, Reachable (.spelling configs names) journal → journal.Agrees) ↔
      IsUnambiguous names := by
  constructor
  · intro hagrees one other hone hother hbeq
    by_contra hne
    refine respelled_not_agrees config hbeq hne (hagrees _ ?_)
    exact respelled_reachable hconfig (Host.spelling_unsealed (.inr hone))
      (Host.spelling_unsealed (.inr hother))
  · exact fun h journal hjournal => hjournal.agrees (Host.isFaithful_spelling h)

/-- A pass agrees behind `Shop.Order` with `int` only. -/
theorem declared_order_agrees :
    ((ofConfig {}).setDeclarations [.unsealed ⟨"Shop", "Order<int>"⟩]).Agrees := by
  have hfresh : (ofConfig {}).Reachable
      (.spelling (fun _ => True) (· = ⟨"Shop", "Order<int>"⟩)) := .fresh {} trivial
  refine (agrees_iff_isUnambiguous (fun _ => True) {} trivial (· = ⟨"Shop", "Order<int>"⟩)).mpr ?_
    _ (hfresh.declare (Host.spelling_unsealed (.inr rfl)))
  exact fun one other hone hother _ => hone.trans hother.symm

/-- A pass does not agree behind `Shop.Order` with `int` and then with `string`. -/
theorem respelled_order_not_agrees :
    (respelled {} ⟨"Shop", "Order<int>"⟩ ⟨"Shop", "Order<string>"⟩).Reachable .all ∧
      ¬(respelled {} ⟨"Shop", "Order<int>"⟩ ⟨"Shop", "Order<string>"⟩).Agrees := by
  refine ⟨respelled_reachable trivial trivial trivial, respelled_not_agrees {} ?_ ?_⟩
  · decide +kernel
  · intro hsame
    exact absurd (congrArg ClassIdentifier.className hsame) (by decide)

end Journal

end TemplateCodegen
