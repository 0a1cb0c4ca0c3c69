import TemplateCodegen.Proofs.Incremental.Progress
import TemplateCodegen.Proofs.Pipeline.Wired

/-!
# Passes of a pipeline

What every operation of a pipeline leaves as it is: the handles keep naming the stages that the
pipeline was made with. A pass is cancelled, finds nothing to deliver, delivers everything, or ends
at a failure of the sink (`Pipeline.run_ends`). Where a complete run leaves every stage that an
output depends on with its values from scratch, the pass reports the diagnostics of the plain
composition and the pipeline holds its artifacts (`Pipeline.IsWired.update_ok`).
-/

namespace TemplateCodegen

open Incremental

namespace Supplies

variable {manifest : Manifest} {config : Config} {supply : Supply Traffic}

/-- Other declarations of the compilation are supplied. -/
theorem setDeclarations (h : Supplies manifest config supply) (declarations : List Declaration) :
    Supplies { manifest with definitions := declarations } config
      (supply.set 1 Traffic.declaration.kind declarations) where
  config := (supply.set_of_ne (by decide) _ _ _).trans h.config
  declarations := supply.set_self 1 Traffic.declaration.kind declarations
  supplementary := (supply.set_of_ne (by decide) _ _ _).trans h.supplementary
  usages := (supply.set_of_ne (by decide) _ _ _).trans h.usages

/-- Other declarations of referenced libraries are supplied. -/
theorem setSupplementary (h : Supplies manifest config supply) (declarations : List Declaration) :
    Supplies { manifest with supplementary := declarations } config
      (supply.set 2 Traffic.declaration.kind declarations) where
  config := (supply.set_of_ne (by decide) _ _ _).trans h.config
  declarations := (supply.set_of_ne (by decide) _ _ _).trans h.declarations
  supplementary := supply.set_self 2 Traffic.declaration.kind declarations
  usages := (supply.set_of_ne (by decide) _ _ _).trans h.usages

/-- Other usages are supplied. -/
theorem setUsages (h : Supplies manifest config supply) (usages : List Usage) :
    Supplies { manifest with usages } config (supply.set 3 Traffic.usage.kind usages) where
  config := (supply.set_of_ne (by decide) _ _ _).trans h.config
  declarations := (supply.set_of_ne (by decide) _ _ _).trans h.declarations
  supplementary := (supply.set_of_ne (by decide) _ _ _).trans h.supplementary
  usages := supply.set_self 3 Traffic.usage.kind usages

/-- Another configuration is supplied. -/
theorem setConfig (h : Supplies manifest config supply) (chosen : Config) :
    Supplies manifest chosen (supply.set 0 Traffic.config.kind [chosen]) where
  config := supply.set_self 0 Traffic.config.kind [chosen]
  declarations := (supply.set_of_ne (by decide) _ _ _).trans h.declarations
  supplementary := (supply.set_of_ne (by decide) _ _ _).trans h.supplementary
  usages := (supply.set_of_ne (by decide) _ _ _).trans h.usages

end Supplies

namespace Pipeline

/-- The collected artifacts, as of the last pass. -/
def collected (pipeline : Pipeline) : List Artifact :=
  match pipeline.graph.outputNode? Traffic.artifact.listKind pipeline.wiring.artifacts.id with
  | some node => (pipeline.graph.get? (⟨node.source⟩ : Single Traffic.artifact.listKind)).getD []
  | none => []

/-- The handles name the stages of the generation graph. -/
structure IsWired (pipeline : Pipeline) : Prop where
  /-- Every stage finds its inputs. -/
  linked : IsLinked pipeline.graph.stages
  /-- The sources are the first four stages. -/
  sources : pipeline.wiring.HasSources pipeline.graph.stages
  /-- Whatever is supplied, the outputs hand out the plain composition. -/
  handsOut : ∀ manifest config supply, Supplies manifest config supply →
    pipeline.wiring.HandsOut supply (sequential manifest config) pipeline.graph.stages

variable {pipeline : Pipeline}

/-- The graph may go on. -/
theorem IsWired.continues (h : pipeline.IsWired) {next : Pipeline}
    (hwiring : next.wiring = pipeline.wiring) (hcontinues : pipeline.graph.Continues next.graph) :
    next.IsWired := by
  refine ⟨?_, ?_, ?_⟩
  · rw [hcontinues.stages]
    exact h.linked
  · rw [hwiring, hcontinues.stages]
    exact h.sources
  · rw [hwiring, hcontinues.stages]
    exact h.handsOut

/-! ## A fresh pipeline -/

/-- A fresh graph is supplied with its configuration and nothing else. -/
theorem supplies_fresh (config : Config) : Supplies {} config (freshSupply config) where
  config := Supply.set_self _ 0 Traffic.config.kind [config]
  declarations := Supply.set_of_ne _ (by decide) _ _ _
  supplementary := Supply.set_of_ne _ (by decide) _ _ _
  usages := Supply.set_of_ne _ (by decide) _ _ _

/-- A fresh pipeline has grown from the graph without nodes. -/
theorem ofConfig_grows (host : Host) (config : Config) :
    Grows (freshSupply config) host.Allows (StageGraph.empty.setParallel config.isParallel)
      (ofConfig config).graph :=
  (wire_yields host config rfl (supplies_fresh config)).1

/-- The handles of a fresh pipeline name the stages of the generation graph. -/
theorem ofConfig_isWired (config : Config) : (ofConfig config).IsWired where
  linked := (ofConfig_grows .all config).isLinked fun _ _ h => nomatch h
  sources := (wire_yields .all config rfl (supplies_fresh config)).2.1
  handsOut _ _ _ hsupplies :=
    (wire_yields .all config rfl hsupplies).2.2

/-- The sources of a fresh pipeline hold its configuration and nothing else. -/
theorem ofConfig_isSupplied (config : Config) :
    IsSupplied (freshSupply config) (ofConfig config).graph.nodes :=
  (ofConfig_grows .all config).isSupplied fun _ _ _ h => nomatch h

/-- The nodes of a fresh pipeline remember nothing. -/
theorem ofConfig_isBlank (config : Config) : ∀ node ∈ (ofConfig config).graph.nodes, node.IsBlank :=
  (ofConfig_grows .all config).isBlank fun _ h => nomatch h

/-- The stages of a fresh pipeline are allowed, whatever its host may supply. -/
theorem ofConfig_allows (host : Host) (config : Config) :
    ∀ stage ∈ (ofConfig config).graph.stages, host.Allows stage :=
  (ofConfig_grows host config).forall_good fun _ h => nomatch h

/-! ## Updates and deliveries -/

/-- An update that is not cancelled is a complete run and a taking of the diagnostics. -/
theorem update_cases (pipeline : Pipeline) (signal : Signal) :
    (∃ error, (pipeline.graph.run signal).2.2 = .error error ∧
      pipeline.update signal =
        ({ pipeline with graph := (pipeline.graph.run signal).1 }, (pipeline.graph.run signal).2.1,
          .error error)) ∨
    (∃ summary, (pipeline.graph.run signal).2.2 = .ok summary ∧
      pipeline.update signal =
        ({ pipeline with
            graph := ((pipeline.graph.run signal).1.take pipeline.wiring.diagnosticsOutput).1 },
          (pipeline.graph.run signal).2.1, .ok ())) := by
  unfold update
  cases hrun : pipeline.graph.run signal with
  | mk graph rest =>
    obtain ⟨signal', outcome⟩ := rest
    cases outcome with
    | error error => exact .inl ⟨error, rfl, rfl⟩
    | ok summary => exact .inr ⟨summary, rfl, rfl⟩

/-- The output of the artifacts and the slot in front of it. -/
structure Delivers (pipeline : Pipeline) (node : OutputNode Traffic.artifact.listKind)
    (slot : Slot Traffic.artifact.listKind.Val) : Prop where
  /-- The output. -/
  node_at : pipeline.graph.nodes[pipeline.wiring.artifacts.id]? =
    some (.output Traffic.artifact.listKind node)
  /-- The slot. -/
  slot_at : slot? Traffic.artifact.listKind pipeline.graph.nodes node.source = some slot

namespace Delivers

variable {node : OutputNode Traffic.artifact.listKind} {slot : Slot Traffic.artifact.listKind.Val}

/-- The collected artifacts are the first value of the slot. -/
theorem collected_eq (h : pipeline.Delivers node slot) :
    pipeline.collected = slot.values.head?.getD [] := by
  rw [collected, StageGraph.outputNode?_eq_some h.node_at]
  dsimp only
  rw [StageGraph.get?, h.slot_at, Option.bind_some]

/-- When nothing is pending behind a complete run, the slot has been taken or is empty. -/
theorem of_idle (h : pipeline.Delivers node slot) (hcomplete : pipeline.graph.isComplete = true)
    (hidle : pipeline.pendingArtifacts? = none) :
    node.taken = some slot.version ∨ slot.values = [] := by
  rw [pendingArtifacts?, StageGraph.pending?_eq h.node_at h.slot_at hcomplete] at hidle
  split at hidle
  · rename_i htaken
    exact .inl htaken
  · exact .inr (List.head?_eq_none_iff.mp (Option.map_eq_none_iff.mp hidle))

/-- What is pending are the collected artifacts under the version of the slot, and they have not
been taken. -/
theorem of_pending (h : pipeline.Delivers node slot)
    {pending : Pending Traffic.artifact.listKind}
    (hpending : pipeline.pendingArtifacts? = some pending) :
    pending.version = slot.version ∧ pending.value = pipeline.collected ∧
      node.taken ≠ some slot.version := by
  have hcomplete : pipeline.graph.isComplete = true := by
    by_contra hnot
    rw [pendingArtifacts?, StageGraph.pending?_of_not_complete _ (by simpa using hnot)] at hpending
    cases hpending
  rw [pendingArtifacts?, StageGraph.pending?_eq h.node_at h.slot_at hcomplete] at hpending
  split at hpending
  · cases hpending
  · rename_i htaken
    obtain ⟨value, hvalue, rfl⟩ := Option.map_eq_some_iff.mp hpending
    refine ⟨rfl, ?_, htaken⟩
    rw [h.collected_eq, hvalue]
    rfl

end Delivers

/-- A wired pipeline has an output of the artifacts and a slot in front of it. -/
theorem IsWired.exists_delivers (h : pipeline.IsWired) :
    ∃ node slot, pipeline.Delivers node slot := by
  obtain ⟨input, hinput, hdenotes⟩ := (h.handsOut _ _ _ (supplies_fresh {})).artifacts
  obtain ⟨node, hnode, rfl⟩ := StageGraph.exists_output hinput
  obtain ⟨slot, hslot⟩ := exists_slot?_of_kind? hdenotes.kind?
  exact ⟨node, slot, hnode, hslot⟩

/-- The collected artifacts are the value of the stage in front of their output. -/
theorem collected_of_stage {input : Nat}
    (h : pipeline.graph.stages[pipeline.wiring.artifacts.id]? =
      some (.output Traffic.artifact.listKind input)) :
    pipeline.collected =
      (pipeline.graph.get? (⟨input⟩ : Single Traffic.artifact.listKind)).getD [] := by
  obtain ⟨node, hnode, rfl⟩ := StageGraph.exists_output h
  rw [collected, StageGraph.outputNode?_eq_some hnode]

/-- The outputs of a wired pipeline are two. -/
theorem IsWired.outputs_ne (h : pipeline.IsWired) :
    pipeline.wiring.diagnosticsOutput.id ≠ pipeline.wiring.artifacts.id := by
  have houts := h.handsOut _ _ _ (supplies_fresh {})
  obtain ⟨input, hinput, _⟩ := houts.artifacts
  intro hsame
  have hboth := houts.diagnosticsOutput
  rw [hsame, hinput] at hboth
  cases hboth

/-- An update lets the graph go on. -/
theorem continues_update (pipeline : Pipeline) (signal : Signal) :
    pipeline.graph.Continues (pipeline.update signal).1.graph := by
  have hrun := pipeline.graph.continues_run signal
  rcases pipeline.update_cases signal with ⟨error, _, heq⟩ | ⟨summary, _, heq⟩
  · rw [heq]
    exact hrun
  · rw [heq]
    exact hrun.trans (StageGraph.continues_take _ pipeline.wiring.diagnosticsOutput)

/-- An update leaves the handles. -/
theorem wiring_update (pipeline : Pipeline) (signal : Signal) :
    (pipeline.update signal).1.wiring = pipeline.wiring := by
  rcases pipeline.update_cases signal with ⟨error, _, heq⟩ | ⟨summary, _, heq⟩
  · rw [heq]
  · rw [heq]

/-- Behind an update that is not cancelled the graph is complete. -/
theorem isComplete_update {signal : Signal} (hok : (pipeline.update signal).2.2 = .ok ()) :
    (pipeline.update signal).1.graph.isComplete = true := by
  rcases pipeline.update_cases signal with ⟨error, _, heq⟩ | ⟨summary, hrun, heq⟩
  · rw [heq] at hok
    cases hok
  · rw [heq]
    dsimp only
    rw [StageGraph.isComplete_take]
    change (pipeline.graph.run signal).2.2.isOk = true
    rw [hrun]
    rfl

/-- An update that nobody stops is not cancelled when no stage is but by a poll. -/
theorem update_quiet (h : ∀ stage ∈ pipeline.graph.stages, stage.IsWilling) :
    (pipeline.update .quiet).2.2 = .ok () := by
  obtain ⟨summary, hsummary⟩ := StageGraph.run_passes h []
  rcases pipeline.update_cases .quiet with ⟨other, hrun, _⟩ | ⟨_, _, heq⟩
  · exact nomatch hrun.symm.trans hsummary
  · rw [heq]

/-- An update leaves the output of the artifacts. -/
theorem IsWired.output_update (h : pipeline.IsWired)
    {node : OutputNode Traffic.artifact.listKind}
    (hnode : pipeline.graph.nodes[pipeline.wiring.artifacts.id]? =
      some (.output Traffic.artifact.listKind node)) (signal : Signal) :
    (pipeline.update signal).1.graph.nodes[pipeline.wiring.artifacts.id]? =
      some (.output Traffic.artifact.listKind node) := by
  have hrun := StageGraph.output_run hnode signal
  rcases pipeline.update_cases signal with ⟨error, _, heq⟩ | ⟨summary, _, heq⟩
  · rw [heq]
    exact hrun
  · rw [heq]
    exact StageGraph.output_take hrun h.outputs_ne

/-- A commit marks the version of what was pending and leaves the slot in front of the output. -/
theorem Delivers.commitArtifacts {node : OutputNode Traffic.artifact.listKind}
    {slot : Slot Traffic.artifact.listKind.Val} (h : pipeline.Delivers node slot)
    (pending : Pending Traffic.artifact.listKind) :
    ∃ next, (pipeline.commitArtifacts pending).Delivers next slot ∧
      next.taken = some pending.version := by
  obtain ⟨next, hnext, hsource, htaken⟩ := StageGraph.output_commit_self h.node_at pending
  refine ⟨next, ⟨hnext, ?_⟩, htaken⟩
  rw [hsource]
  exact (StageGraph.slot?_commit _ _ _ _ _).trans h.slot_at

/-- A commit leaves the collected artifacts. -/
theorem IsWired.collected_commitArtifacts (h : pipeline.IsWired)
    (pending : Pending Traffic.artifact.listKind) :
    (pipeline.commitArtifacts pending).collected = pipeline.collected := by
  obtain ⟨node, slot, hdelivers⟩ := h.exists_delivers
  obtain ⟨next, hnext, _⟩ := hdelivers.commitArtifacts pending
  rw [hnext.collected_eq, hdelivers.collected_eq]

/-- Where a complete run leaves every stage that an output depends on with its values from scratch,
the diagnostics and the artifacts are those of the plain composition. -/
theorem IsWired.update_ok (h : pipeline.IsWired) {manifest : Manifest} {config : Config}
    {supply : Supply Traffic} (hsupplies : Supplies manifest config supply) {signal : Signal}
    (hok : (pipeline.update signal).2.2 = .ok ())
    (hholds : ∀ summary, (pipeline.graph.run signal).2.2 = .ok summary →
      ∀ id, Wanted pipeline.graph.stages id →
        ((pipeline.graph.run signal).1.nodes.map Node.batch?)[id]? =
          (scratch supply pipeline.graph.stages)[id]?) :
    (pipeline.update signal).1.diagnostics = (sequential manifest config).report.diagnostics ∧
      (pipeline.update signal).1.collected = (sequential manifest config).artifacts := by
  rcases pipeline.update_cases signal with ⟨error, _, heq⟩ | ⟨summary, hrun, heq⟩
  · rw [heq] at hok
    cases hok
  have houts := h.handsOut manifest config supply hsupplies
  obtain ⟨input, hinput, hartifacts⟩ := houts.artifacts
  have hwanted : ∀ {id reader : Nat} {kind : Kind Traffic},
      pipeline.graph.stages[reader]? = some (.output kind id) → Wanted pipeline.graph.stages id :=
    fun hreader => .input (.output hreader rfl) hreader List.mem_cons_self
  have hdiagnostics := StageGraph.get?_eq_some
    ((hholds summary hrun _ (hwanted houts.diagnosticsOutput)).trans houts.diagnostics)
  have hcollected := StageGraph.get?_eq_some
    ((hholds summary hrun _ (hwanted hinput)).trans hartifacts)
  rw [heq]
  refine ⟨?_, ?_⟩
  · rw [diagnostics, StageGraph.get?_take, hdiagnostics]
    rfl
  · have hafter : ((pipeline.graph.run signal).1.take pipeline.wiring.diagnosticsOutput).1.stages =
        pipeline.graph.stages :=
      (StageGraph.stages_take _ _).trans (StageGraph.stages_run _ _)
    rw [collected_of_stage (by rw [hafter]; exact hinput), StageGraph.get?_take, hcollected]
    rfl

/-- How a pass ends behind its update. -/
inductive Ends {σ ε : Type} (emit : Artifact → StateM σ (Except ε Unit)) (state : σ)
    (updated : Pipeline) (signal : Signal) : Except Cancelled Unit →
    (Pipeline × Signal × Except (PassError ε) Report) × σ → Prop where
  /-- The update was cancelled. -/
  | cancelled (error : Cancelled) :
    Ends emit state updated signal (.error error)
      ((updated, signal, .error (.cancelled error)), state)
  /-- There is nothing to deliver. -/
  | idle (hpending : updated.pendingArtifacts? = none) :
    Ends emit state updated signal (.ok ())
      ((updated, signal, .ok ⟨updated.diagnostics, []⟩), state)
  /-- The sink has taken everything. -/
  | delivered {pending : Pending Traffic.artifact.listKind} {artifacts : List Artifact} {state' : σ}
    (hpending : updated.pendingArtifacts? = some pending) (hvalue : pending.value = artifacts)
    (hemit : (emitAll emit artifacts).run state = (.ok (), state')) :
    Ends emit state updated signal (.ok ())
      ((updated.commitArtifacts pending, signal,
        .ok ⟨updated.diagnostics, artifacts.map Artifact.key⟩), state')
  /-- The sink has failed. -/
  | failed {pending : Pending Traffic.artifact.listKind} {artifacts : List Artifact} {error : ε}
    {state' : σ} (hpending : updated.pendingArtifacts? = some pending)
    (hvalue : pending.value = artifacts)
    (hemit : (emitAll emit artifacts).run state = (.error error, state')) :
    Ends emit state updated signal (.ok ()) ((updated, signal, .error (.sink error)), state')

/-- Every pass ends in one of these ways. -/
theorem run_ends {σ ε : Type} (pipeline : Pipeline) (emit : Artifact → StateM σ (Except ε Unit))
    (signal : Signal) (state : σ) :
    Ends emit state (pipeline.update signal).1 (pipeline.update signal).2.1
      (pipeline.update signal).2.2 ((pipeline.run emit signal).run state) := by
  unfold run
  generalize pipeline.update signal = updated
  obtain ⟨after, signal', outcome⟩ := updated
  cases outcome with
  | error error => exact .cancelled error
  | ok _ =>
    cases hpending : after.pendingArtifacts? with
    | none =>
      dsimp only
      rw [hpending]
      exact .idle hpending
    | some pending =>
      dsimp only
      rw [hpending]
      dsimp only
      rw [StateT.run_bind]
      cases hemit : (emitAll emit pending.value).run state with
      | mk result state' =>
        cases result with
        | ok _ => exact .delivered hpending rfl hemit
        | error error => exact .failed hpending rfl hemit

end Pipeline

end TemplateCodegen
