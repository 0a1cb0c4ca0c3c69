import TemplateCodegen.Proofs.Pipeline.Pass

/-!
# Histories of a pipeline

A host supplies snapshots and runs passes in any order; a pass may be cancelled at any poll, and its
sink may fail at any artifact. A journal is a pipeline with the snapshot supplied last and a record
of the calls that every pass has made of its sink. Main statement: behind a pass that is reported
the collected artifacts are the last ones that the sink has taken, and the pass has delivered all of
them, or none because an earlier pass has and nothing was called since
(`Journal.Reachable.emits_reliably`).
-/

namespace TemplateCodegen

open Incremental

/-- A pass as its sink and its host have seen it. -/
structure PassRecord where
  /-- The calls of the sink in order, and whether each of them succeeded. -/
  calls : List (Artifact × Bool)
  /-- The report, unless the pass was given up. -/
  report? : Option Report

/-- A pipeline with its host's snapshot and the passes so far. -/
structure Journal where
  /-- The pipeline. -/
  pipeline : Pipeline
  /-- The records supplied last. -/
  manifest : Manifest := {}
  /-- The configuration supplied last. -/
  config : Config
  /-- The passes, the first one first. -/
  passes : List PassRecord := []

/-- The sink that writes down every call and whether it succeeded. -/
def recording {σ ε : Type} (emit : Artifact → StateM σ (Except ε Unit)) (artifact : Artifact) :
    StateM (σ × List (Artifact × Bool)) (Except ε Unit) := fun (state, calls) =>
  let (outcome, state) := (emit artifact).run state
  (outcome, state, calls ++ [(artifact, outcome.isOk)])

namespace Journal

/-- The journal of a fresh pipeline. -/
def ofConfig (config : Config) : Journal := { pipeline := .ofConfig config, config }

/-- What a pass does: the pipeline behind it, how it ends, and the calls that it makes. -/
def attempt {σ ε : Type} (journal : Journal) (emit : Artifact → StateM σ (Except ε Unit))
    (state : σ) (signal : Signal) :
    Pipeline × Except (PassError ε) Report × List (Artifact × Bool) :=
  let result := (journal.pipeline.run (recording emit) signal).run (state, [])
  (result.1.1, result.1.2.2, result.2.2)

/-- The journal behind a pass. -/
def pass {σ ε : Type} (journal : Journal) (emit : Artifact → StateM σ (Except ε Unit))
    (state : σ) (signal : Signal) : Journal :=
  let (pipeline, outcome, calls) := journal.attempt emit state signal
  { journal with pipeline, passes := journal.passes ++ [⟨calls, outcome.toOption⟩] }

/-- The journal behind a pass has one more record. -/
theorem pass_eq {σ ε : Type} (journal : Journal) (emit : Artifact → StateM σ (Except ε Unit))
    (state : σ) (signal : Signal) :
    journal.pass emit state signal =
      { journal with
        pipeline := (journal.attempt emit state signal).1
        passes := journal.passes ++
          [⟨(journal.attempt emit state signal).2.2,
            (journal.attempt emit state signal).2.1.toOption⟩] } := by
  unfold pass
  generalize journal.attempt emit state signal = attempted
  obtain ⟨pipeline, outcome, calls⟩ := attempted
  rfl

/-- Supply other declarations of the compilation. -/
def setDeclarations (journal : Journal) (declarations : List Declaration) : Journal :=
  { journal with
    pipeline := (journal.pipeline.setDeclarations declarations).1
    manifest := { journal.manifest with definitions := declarations } }

/-- Supply other declarations of referenced libraries. -/
def setSupplementary (journal : Journal) (declarations : List Declaration) : Journal :=
  { journal with
    pipeline := (journal.pipeline.setSupplementary declarations).1
    manifest := { journal.manifest with supplementary := declarations } }

/-- Supply other usages. -/
def setUsages (journal : Journal) (usages : List Usage) : Journal :=
  { journal with
    pipeline := (journal.pipeline.setUsages usages).1
    manifest := { journal.manifest with usages } }

/-- Supply another configuration. -/
def setConfig (journal : Journal) (config : Config) : Journal :=
  { journal with pipeline := (journal.pipeline.setConfig config).1, config }

/-- One operation of a host: another snapshot of records that it may supply, or a pass with any sink
under any signal. -/
inductive Step (host : Host) (journal : Journal) : Journal → Prop where
  | setDeclarations (declarations : List Declaration)
    (h : ∀ declaration ∈ declarations, host.declaration declaration) :
    Step host journal (journal.setDeclarations declarations)
  | setSupplementary (declarations : List Declaration)
    (h : ∀ declaration ∈ declarations, host.declaration declaration) :
    Step host journal (journal.setSupplementary declarations)
  | setUsages (usages : List Usage) (h : ∀ usage ∈ usages, host.usage usage) :
    Step host journal (journal.setUsages usages)
  | setConfig (config : Config) (h : host.config config) :
    Step host journal (journal.setConfig config)
  | pass {σ ε : Type} (emit : Artifact → StateM σ (Except ε Unit)) (state : σ) (signal : Signal) :
    Step host journal (journal.pass emit state signal)

/-- The histories of a host that may supply some records only. -/
inductive Reachable (host : Host) : Journal → Prop where
  | fresh (config : Config) (h : host.config config) : Reachable host (ofConfig config)
  | step {journal next : Journal} (h : Reachable host journal) (hstep : journal.Step host next) :
    Reachable host next

/-- All calls of sinks that have succeeded, the first one first. -/
def successes (journal : Journal) : List Artifact :=
  (journal.passes.flatMap PassRecord.calls).filterMap fun call =>
    if call.2 = true then some call.1 else none

/-- Some pass has delivered the artifacts in full and reported their keys, and no later one has made
a call. -/
def Delivered (journal : Journal) (artifacts : List Artifact) : Prop :=
  ∃ earlier record later, journal.passes = earlier ++ record :: later ∧
    record.calls = artifacts.map (fun artifact => (artifact, true)) ∧
    (∃ report, record.report? = some report ∧ report.emitted = artifacts.map Artifact.key) ∧
    ∀ pass ∈ later, pass.calls = []

end Journal

/-- A sink that takes every artifact is called once for each of them. -/
theorem emitAll_recording {σ ε : Type} {emit : Artifact → StateM σ (Except ε Unit)}
    {artifacts : List Artifact} {state state' : σ} {calls calls' : List (Artifact × Bool)}
    (h : (Pipeline.emitAll (recording emit) artifacts).run (state, calls) =
      (.ok (), state', calls')) :
    calls' = calls ++ artifacts.map fun artifact => (artifact, true) := by
  induction artifacts generalizing state calls with
  | nil =>
    cases h
    exact (List.append_nil _).symm
  | cons artifact rest ih =>
    rw [Pipeline.emitAll, StateT.run_bind] at h
    cases hemit : (emit artifact).run state with
    | mk outcome between =>
      have hfirst : (recording emit artifact).run (state, calls) =
          (outcome, between, calls ++ [(artifact, outcome.isOk)]) := by
        change (let (outcome, state) := (emit artifact).run state
          (outcome, state, calls ++ [(artifact, outcome.isOk)])) = _
        rw [hemit]
      rw [hfirst] at h
      cases outcome with
      | error error => cases h
      | ok _ =>
        rw [ih h, List.append_assoc]
        rfl

namespace Journal

variable {host : Host} {journal : Journal}

/-- What has been delivered in full and not been followed by a call are the last successes. -/
theorem Delivered.isSuffix {artifacts : List Artifact} (h : journal.Delivered artifacts) :
    artifacts <:+ journal.successes := by
  obtain ⟨earlier, record, later, hpasses, hcalls, _, hlater⟩ := h
  have hnone : later.flatMap PassRecord.calls = [] := by
    rw [List.flatMap_eq_nil_iff]
    exact hlater
  have hall : ∀ artifacts : List Artifact,
      ((artifacts.map fun artifact => (artifact, true)).filterMap fun call =>
        if call.2 = true then some call.1 else none) = artifacts := by
    intro artifacts
    rw [List.filterMap_map]
    exact List.filterMap_some
  refine ⟨(earlier.flatMap PassRecord.calls).filterMap fun call =>
    if call.2 = true then some call.1 else none, ?_⟩
  rw [successes, hpasses, List.flatMap_append, List.flatMap_cons, hnone, List.append_nil, hcalls,
    List.filterMap_append, hall]

/-- A pass without calls leaves what has been delivered. -/
theorem Delivered.concat {artifacts : List Artifact} (h : journal.Delivered artifacts)
    {next : Journal} {record : PassRecord} (hpasses : next.passes = journal.passes ++ [record])
    (hcalls : record.calls = []) : next.Delivered artifacts := by
  obtain ⟨earlier, found, later, hfound, hall, hreport, hlater⟩ := h
  refine ⟨earlier, found, later ++ [record], ?_, hall, hreport, fun pass hpass => ?_⟩
  · rw [hpasses, hfound, List.append_assoc, List.cons_append]
  · rcases List.mem_append.mp hpass with hmem | hmem
    · exact hlater pass hmem
    · rw [List.mem_singleton.mp hmem]
      exact hcalls

/-- The invariant of a history: a version that is marked as delivered is not newer than the slot of
the artifacts, and while it stands the collected artifacts have been delivered. -/
structure Kept (journal : Journal) : Prop where
  /-- The handles name the stages of the generation graph. -/
  wired : journal.pipeline.IsWired
  /-- A marked version stands for a delivery. -/
  marked : ∀ node slot version, journal.pipeline.Delivers node slot →
    node.taken = some version →
    version ≤ slot.version ∧ (version = slot.version → journal.Delivered journal.pipeline.collected)

/-- A fresh pipeline has delivered nothing. -/
theorem Kept.ofConfig (config : Config) : (ofConfig config).Kept where
  wired := Pipeline.ofConfig_isWired config
  marked node slot version hdelivers htaken := by
    have hblank := Pipeline.ofConfig_isBlank config _ (List.mem_of_getElem? hdelivers.node_at)
    exact nomatch htaken.symm.trans hblank

/-- The pipeline may go on without a call where the output of the artifacts is left. -/
theorem Kept.continues (h : journal.Kept) {next : Journal}
    (hwiring : next.pipeline.wiring = journal.pipeline.wiring)
    (hcontinues : journal.pipeline.graph.Continues next.pipeline.graph)
    (houtput : ∀ node, journal.pipeline.graph.nodes[journal.pipeline.wiring.artifacts.id]? =
        some (.output Traffic.artifact.listKind node) →
      next.pipeline.graph.nodes[journal.pipeline.wiring.artifacts.id]? =
        some (.output Traffic.artifact.listKind node))
    (hdelivered : ∀ artifacts, journal.Delivered artifacts → next.Delivered artifacts) :
    next.Kept := by
  refine ⟨h.wired.continues hwiring hcontinues, fun node' slot' version hdelivers' htaken => ?_⟩
  obtain ⟨node, slot, hdelivers⟩ := h.wired.exists_delivers
  have hnode := houtput node hdelivers.node_at
  have hsame := hdelivers'.node_at
  rw [hwiring, hnode] at hsame
  cases hsame
  obtain ⟨found, hfound, hprecedes⟩ := hcontinues.exists_slot? hdelivers.slot_at
  obtain rfl : slot' = found := Option.some.inj (hdelivers'.slot_at.symm.trans hfound)
  obtain ⟨hle, hmarked⟩ := h.marked node' slot version hdelivers htaken
  refine ⟨Nat.le_trans hle hprecedes.version_le, fun hversion => ?_⟩
  obtain rfl := hprecedes.eq_of_version (hversion ▸ hle)
  rw [hdelivers'.collected_eq, ← hdelivers.collected_eq]
  exact hdelivered _ (hmarked hversion)

/-- An update keeps the invariant. -/
theorem Kept.update (h : journal.Kept) (signal : Signal) :
    Kept { journal with pipeline := (journal.pipeline.update signal).1 } :=
  h.continues (journal.pipeline.wiring_update signal) (journal.pipeline.continues_update signal)
    (fun _ hnode => h.wired.output_update hnode signal) fun _ hdelivered => hdelivered

/-- A pass that makes no call keeps the invariant, behind its update. -/
theorem Kept.concat (h : journal.Kept) {record : PassRecord} (hcalls : record.calls = []) :
    Kept { journal with passes := journal.passes ++ [record] } :=
  h.continues rfl (.refl _) (fun _ hnode => hnode) fun _ hdelivered =>
    hdelivered.concat rfl hcalls

/-- A pass that fails in its sink keeps the invariant, behind its update: the version that is marked
is not the one that was to be delivered. -/
theorem Kept.fail (h : journal.Kept) {pending : Pending Traffic.artifact.listKind}
    (hpending : journal.pipeline.pendingArtifacts? = some pending) (record : PassRecord) :
    Kept { journal with passes := journal.passes ++ [record] } where
  wired := h.wired
  marked node slot version hdelivers htaken := by
    obtain ⟨hle, _⟩ := h.marked node slot version hdelivers htaken
    obtain ⟨_, _, hne⟩ := hdelivers.of_pending hpending
    exact ⟨hle, fun hversion => absurd (hversion ▸ htaken) hne⟩

/-- A pass that delivers what is pending keeps the invariant, behind its update. -/
theorem Kept.deliver (h : journal.Kept) {pending : Pending Traffic.artifact.listKind}
    (hpending : journal.pipeline.pendingArtifacts? = some pending) {record : PassRecord}
    (hcalls : record.calls = journal.pipeline.collected.map fun artifact => (artifact, true))
    (hreport : ∃ report, record.report? = some report ∧
      report.emitted = journal.pipeline.collected.map Artifact.key) :
    Kept { journal with
      pipeline := journal.pipeline.commitArtifacts pending
      passes := journal.passes ++ [record] } where
  wired := h.wired.continues rfl (StageGraph.continues_commit _ _ _)
  marked node slot version hdelivers htaken := by
    obtain ⟨before, found, hbefore⟩ := h.wired.exists_delivers
    obtain ⟨next, hnext, hmarked⟩ := hbefore.commitArtifacts pending
    have hnode := hdelivers.node_at.symm.trans hnext.node_at
    cases hnode
    obtain rfl : slot = found := Option.some.inj (hdelivers.slot_at.symm.trans hnext.slot_at)
    obtain ⟨hversion, _, _⟩ := hbefore.of_pending hpending
    obtain rfl : pending.version = version := Option.some.inj (hmarked.symm.trans htaken)
    refine ⟨Nat.le_of_eq hversion, fun _ => ⟨journal.passes, record, [], rfl, ?_, ?_, nofun⟩⟩
    · rw [h.wired.collected_commitArtifacts]
      exact hcalls
    · rw [h.wired.collected_commitArtifacts]
      exact hreport

/-- What a pass does: it is cancelled without a call; or it makes no call because nothing was
collected or all of it has been delivered; or it delivers everything; or its sink fails. -/
theorem Kept.attempt_cases (h : journal.Kept) {σ ε : Type}
    {emit : Artifact → StateM σ (Except ε Unit)} {state : σ} {signal : Signal} {pipeline : Pipeline}
    {outcome : Except (PassError ε) Report} {calls : List (Artifact × Bool)}
    (hattempt : journal.attempt emit state signal = (pipeline, outcome, calls)) :
    (∃ error, outcome = .error (.cancelled error) ∧ calls = [] ∧
      pipeline = (journal.pipeline.update signal).1) ∨
    (∃ report, outcome = .ok report ∧ calls = [] ∧ report.emitted = [] ∧
      pipeline = (journal.pipeline.update signal).1 ∧
      (pipeline.collected = [] ∨ journal.Delivered pipeline.collected)) ∨
    (∃ report pending, outcome = .ok report ∧
      calls = pipeline.collected.map (fun artifact => (artifact, true)) ∧
      report.emitted = pipeline.collected.map Artifact.key ∧
      (journal.pipeline.update signal).1.pendingArtifacts? = some pending ∧
      pipeline = (journal.pipeline.update signal).1.commitArtifacts pending) ∨
    (∃ error pending, outcome = .error (.sink error) ∧
      (journal.pipeline.update signal).1.pendingArtifacts? = some pending ∧
      pipeline = (journal.pipeline.update signal).1) := by
  have hupdate := h.update signal
  have hcomplete : (journal.pipeline.update signal).2.2 = .ok () → _ := Pipeline.isComplete_update
  have hends := journal.pipeline.run_ends (recording emit) signal (state, [])
  unfold attempt at hattempt
  generalize (journal.pipeline.run (recording emit) signal).run (state, []) = result
    at hends hattempt
  generalize (journal.pipeline.update signal).2.2 = ended at hends hcomplete
  generalize (journal.pipeline.update signal).2.1 = signal' at hends
  generalize (journal.pipeline.update signal).1 = updated at hupdate hends hcomplete ⊢
  obtain ⟨node, slot, hdelivers⟩ := hupdate.wired.exists_delivers
  cases hends with
  | cancelled error =>
    cases hattempt
    exact .inl ⟨error, rfl, rfl, rfl⟩
  | idle hpending =>
    cases hattempt
    refine .inr (.inl ⟨_, rfl, rfl, rfl, rfl, ?_⟩)
    rcases hdelivers.of_idle (hcomplete rfl) hpending with htaken | hempty
    · exact .inr ((hupdate.marked node slot slot.version hdelivers htaken).2 rfl)
    · rw [hdelivers.collected_eq, hempty]
      exact .inl rfl
  | @delivered pending artifacts state' hpending hvalue hemit =>
    cases hattempt
    have hartifacts : artifacts = (updated.commitArtifacts pending).collected := by
      rw [hupdate.wired.collected_commitArtifacts, ← hvalue]
      exact (hdelivers.of_pending hpending).2.1
    refine .inr (.inr (.inl ⟨_, pending, rfl, ?_, ?_, hpending, rfl⟩))
    · rw [← hartifacts]
      exact (emitAll_recording hemit).trans (List.nil_append _)
    · rw [← hartifacts]
  | @failed pending artifacts error state' hpending hvalue hemit =>
    cases hattempt
    exact .inr (.inr (.inr ⟨error, pending, rfl, hpending, rfl⟩))

/-- Behind its update a pass leaves the pipeline or marks what was pending; one that is reported
gives the diagnostics that the update has left. -/
theorem attempt_ends {σ ε : Type} (journal : Journal) (emit : Artifact → StateM σ (Except ε Unit))
    (state : σ) (signal : Signal) :
    ((journal.attempt emit state signal).1 = (journal.pipeline.update signal).1 ∨
      ∃ pending, (journal.attempt emit state signal).1 =
        (journal.pipeline.update signal).1.commitArtifacts pending) ∧
    ∀ report, (journal.attempt emit state signal).2.1 = .ok report →
      (journal.pipeline.update signal).2.2 = .ok () ∧
        report.diagnostics = (journal.pipeline.update signal).1.diagnostics := by
  have hends := journal.pipeline.run_ends (recording emit) signal (state, [])
  unfold attempt
  generalize (journal.pipeline.run (recording emit) signal).run (state, []) = result at hends ⊢
  generalize (journal.pipeline.update signal).2.2 = ended at hends ⊢
  cases hends with
  | cancelled error => exact ⟨.inl rfl, fun report hreport => nomatch hreport⟩
  | idle hpending =>
    refine ⟨.inl rfl, fun report hreport => ?_⟩
    cases hreport
    exact ⟨rfl, rfl⟩
  | @delivered pending artifacts state' hpending hvalue hemit =>
    refine ⟨.inr ⟨pending, rfl⟩, fun report hreport => ?_⟩
    cases hreport
    exact ⟨rfl, rfl⟩
  | failed hpending hvalue hemit => exact ⟨.inl rfl, fun report hreport => nomatch hreport⟩

/-- Every pass keeps the invariant. -/
theorem Kept.pass (h : journal.Kept) {σ ε : Type} (emit : Artifact → StateM σ (Except ε Unit))
    (state : σ) (signal : Signal) : (journal.pass emit state signal).Kept := by
  have hupdate := h.update signal
  rw [journal.pass_eq]
  generalize hattempt : journal.attempt emit state signal = attempted
  obtain ⟨pipeline, outcome, calls⟩ := attempted
  rcases h.attempt_cases hattempt with
    ⟨error, rfl, rfl, rfl⟩ | ⟨report, rfl, rfl, _, rfl, _⟩ |
      ⟨report, pending, rfl, rfl, hemitted, hpending, rfl⟩ | ⟨error, pending, rfl, hpending, rfl⟩
  · exact hupdate.concat rfl
  · exact hupdate.concat rfl
  · rw [hupdate.wired.collected_commitArtifacts] at hemitted ⊢
    exact hupdate.deliver hpending rfl ⟨report, rfl, hemitted⟩
  · exact hupdate.fail hpending _

/-- Supplying values keeps the invariant. -/
theorem Kept.setValues (h : journal.Kept) {next : Journal} (kind : Kind Traffic) (id : Nat)
    (values : List kind.Val)
    (hpipeline : next.pipeline =
      { journal.pipeline with graph := (journal.pipeline.graph.setValues kind id values).1 })
    (hpasses : next.passes = journal.passes) : next.Kept := by
  refine h.continues ?_ ?_ (fun node hnode => ?_) fun artifacts hdelivered => ?_
  · rw [hpipeline]
  · rw [hpipeline]
    exact journal.pipeline.graph.continues_setValues kind id values
  · rw [hpipeline]
    exact StageGraph.output_setValues hnode kind id values
  · unfold Delivered
    rw [hpasses]
    exact hdelivered

/-- Every operation of a host keeps the invariant. -/
theorem Kept.step (h : journal.Kept) {next : Journal} (hstep : journal.Step host next) :
    next.Kept := by
  cases hstep with
  | setDeclarations declarations _ =>
    exact h.setValues Traffic.declaration.kind _ declarations rfl rfl
  | setSupplementary declarations _ =>
    exact h.setValues Traffic.declaration.kind _ declarations rfl rfl
  | setUsages usages _ => exact h.setValues Traffic.usage.kind _ usages rfl rfl
  | setConfig config _ =>
    have hparallel : Kept { journal with
        pipeline := { journal.pipeline with
          graph := journal.pipeline.graph.setParallel config.isParallel } } :=
      h.continues rfl ⟨rfl, (StageGraph.Continues.refl _).advances⟩ (fun _ hnode => hnode)
        fun _ hdelivered => hdelivered
    exact hparallel.setValues Traffic.config.kind _ [config] rfl rfl
  | pass emit state signal => exact h.pass emit state signal

/-- Every history keeps the invariant. -/
theorem Reachable.kept (h : journal.Reachable host) : journal.Kept := by
  induction h with
  | fresh config _ => exact Kept.ofConfig config
  | step _ hstep ih => exact ih.step hstep

/-- Behind every pass that is reported the collected artifacts are the last ones that the sink has
ever taken; the pass delivers all of them and reports their keys, or none of them because there are
none or because an earlier pass has delivered exactly these and no call was made since. A pass that
is cancelled makes no call. -/
theorem Reachable.emits_reliably (h : journal.Reachable host) {σ ε : Type}
    (emit : Artifact → StateM σ (Except ε Unit)) (state : σ) (signal : Signal)
    {pipeline : Pipeline} {outcome : Except (PassError ε) Report}
    {calls : List (Artifact × Bool)}
    (hattempt : journal.attempt emit state signal = (pipeline, outcome, calls)) :
    (∀ report, outcome = .ok report →
      pipeline.collected <:+ (journal.pass emit state signal).successes ∧
      ((calls = pipeline.collected.map (fun artifact => (artifact, true)) ∧
          report.emitted = pipeline.collected.map Artifact.key) ∨
        (calls = [] ∧ report.emitted = [] ∧
          (pipeline.collected = [] ∨ journal.Delivered pipeline.collected)))) ∧
    ∀ error, outcome = .error (.cancelled error) → calls = [] := by
  have hpass : (journal.pass emit state signal).passes =
      journal.passes ++ [⟨calls, outcome.toOption⟩] := by
    rw [journal.pass_eq, hattempt]
  rcases h.kept.attempt_cases hattempt with
    ⟨error, rfl, rfl, _⟩ | ⟨report, rfl, rfl, hemitted, _, hdelivered⟩ |
      ⟨report, pending, rfl, rfl, hemitted, _, _⟩ | ⟨error, pending, rfl, _, _⟩
  · exact ⟨fun report hreport => (nomatch hreport), fun _ _ => rfl⟩
  · refine ⟨fun found hfound => ?_, fun error herror => nomatch herror⟩
    obtain rfl : report = found := Except.ok.inj hfound
    refine ⟨?_, .inr ⟨rfl, hemitted, hdelivered⟩⟩
    rcases hdelivered with hnone | hdelivered
    · rw [hnone]
      exact List.nil_suffix
    · exact (hdelivered.concat hpass rfl).isSuffix
  · refine ⟨fun found hfound => ?_, fun error herror => nomatch herror⟩
    obtain rfl : report = found := Except.ok.inj hfound
    have hdelivered : (journal.pass emit state signal).Delivered pipeline.collected :=
      ⟨journal.passes, _, [], hpass, rfl, ⟨report, rfl, hemitted⟩, nofun⟩
    exact ⟨hdelivered.isSuffix, .inl ⟨rfl, hemitted⟩⟩
  · exact ⟨fun report hreport => (nomatch hreport), fun found hfound => (nomatch hfound)⟩

/-- A pipeline with a generator that writes one letter, applied to one class. -/
def greeting : Journal :=
  ((ofConfig {}).setDeclarations
    [(Declaration.ofIdentifier ⟨"", "GreetGenerator"⟩ .onClass).addMember
      (.ofTemplate "Body" .template "x")]).setUsages
    [.ofTarget ⟨"Stencil", "Greet"⟩ (.onClass ⟨"", "Order"⟩)]

/-- The host reaches the pipeline. -/
theorem greeting_reachable : greeting.Reachable .all :=
  (Reachable.fresh {} trivial).step (.setDeclarations _ fun _ _ => trivial) |>.step
    (.setUsages _ fun _ _ => trivial)

/-- A sink that takes everything. -/
def accept (_ : Artifact) : StateM Unit (Except Empty Unit) := pure (.ok ())

/-- A sink that takes as many artifacts as are left to it, and fails at the next one. -/
def acceptSome (_ : Artifact) : StateM Nat (Except Unit Unit) := do
  match ← get with
  | 0 => return .error ()
  | left + 1 =>
    set left
    return .ok ()

/-- The generator is applied to a second class, and the sink fails at the letter for that. -/
def interrupted : Journal :=
  (greeting.setUsages
    [.ofTarget ⟨"Stencil", "Greet"⟩ (.onClass ⟨"", "Order"⟩),
      .ofTarget ⟨"Stencil", "Greet"⟩ (.onClass ⟨"", "Cart"⟩)]).pass acceptSome 1 .quiet

/-- A request that the first poll finds. -/
def stop : Signal := ⟨.live (some 0), []⟩

/-- The next pass delivers both letters, and the one behind it is cancelled. -/
def delivered : Journal := (interrupted.pass accept () .quiet).pass accept () stop

/-- The host reaches the pipeline behind the failing sink. -/
theorem interrupted_reachable : interrupted.Reachable .all :=
  (greeting_reachable.step (.setUsages _ fun _ _ => trivial)).step (.pass acceptSome 1 .quiet)

/-- An attempt that is not given up has a report. -/
theorem exists_report {ε : Type}
    {attempted : Pipeline × Except (PassError ε) Report × List (Artifact × Bool)}
    (h : attempted.2.1.isOk = true) :
    ∃ pipeline report, attempted = (pipeline, .ok report, attempted.2.2) := by
  obtain ⟨pipeline, outcome, calls⟩ := attempted
  cases outcome with
  | error error => cases h
  | ok report => exact ⟨pipeline, report, rfl⟩

/-- The calls of these passes, and how they end. -/
theorem greeting_runs :
    ((greeting.attempt accept () .quiet).2.1.isOk = true ∧
      (greeting.attempt accept () .quiet).2.2 = [(⟨"Order", "x"⟩, true)]) ∧
    interrupted.passes.map PassRecord.calls =
      [[(⟨"Order", "x"⟩, true), (⟨"Cart", "x"⟩, false)]] ∧
    ((interrupted.attempt accept () .quiet).2.1.isOk = true ∧
      (interrupted.attempt accept () .quiet).2.2 =
        [(⟨"Order", "x"⟩, true), (⟨"Cart", "x"⟩, true)]) ∧
    ((interrupted.pass accept () .quiet).attempt accept () stop).2.1.isOk = false ∧
    ((delivered.attempt accept () .quiet).2.1.isOk = true ∧
      (delivered.attempt accept () .quiet).2.2 = []) ∧
    (delivered.attempt accept () .quiet).1.collected ≠ [] := by
  decide +kernel

/-- The first pass delivers the letter, and it is the last one that the sink has taken. Behind a
pass whose sink fails at the second of two letters the next one delivers both; a cancelled pass
makes no call, and the pass behind it makes none either, since both are delivered. -/
theorem greeting_emits :
    (∃ pipeline report, greeting.attempt accept () .quiet =
        (pipeline, .ok report, [(⟨"Order", "x"⟩, true)]) ∧
      pipeline.collected <:+ (greeting.pass accept () .quiet).successes) ∧
    interrupted.passes.map PassRecord.calls =
      [[(⟨"Order", "x"⟩, true), (⟨"Cart", "x"⟩, false)]] ∧
    (∃ pipeline report, interrupted.attempt accept () .quiet =
        (pipeline, .ok report, [(⟨"Order", "x"⟩, true), (⟨"Cart", "x"⟩, true)]) ∧
      report.emitted = pipeline.collected.map Artifact.key ∧
      pipeline.collected <:+ (interrupted.pass accept () .quiet).successes) ∧
    (∃ pipeline error, (interrupted.pass accept () .quiet).attempt accept () stop =
      (pipeline, .error (.cancelled error), [])) ∧
    ∃ pipeline report, delivered.attempt accept () .quiet = (pipeline, .ok report, []) ∧
      pipeline.collected ≠ [] ∧ delivered.Delivered pipeline.collected := by
  obtain ⟨⟨hfirst, hletter⟩, hcalls, ⟨hsecond, hboth⟩, hstopped, ⟨hlast, hnothing⟩, hsome⟩ :=
    greeting_runs
  have hbehind := interrupted_reachable.step (.pass accept () .quiet)
  have hdelivered : delivered.Reachable .all := hbehind.step (.pass accept () stop)
  refine ⟨?_, hcalls, ?_, ?_, ?_⟩
  · obtain ⟨pipeline, report, hattempt⟩ := exists_report hfirst
    rw [hletter] at hattempt
    obtain ⟨hreport, -⟩ := greeting_reachable.emits_reliably accept () .quiet hattempt
    exact ⟨pipeline, report, hattempt, (hreport report rfl).1⟩
  · obtain ⟨pipeline, report, hattempt⟩ := exists_report hsecond
    rw [hboth] at hattempt
    obtain ⟨hreport, -⟩ := interrupted_reachable.emits_reliably accept () .quiet hattempt
    obtain ⟨hsuffix, ⟨-, hemitted⟩ | ⟨hnone, -⟩⟩ := hreport report rfl
    · exact ⟨pipeline, report, hattempt, hemitted, hsuffix⟩
    · cases hnone
  · generalize hattempt : (interrupted.pass accept () .quiet).attempt accept () stop = attempted
      at hstopped
    obtain ⟨pipeline, outcome, calls⟩ := attempted
    obtain ⟨-, hcancelled⟩ := hbehind.emits_reliably accept () stop hattempt
    cases outcome with
    | ok report => cases hstopped
    | error error =>
      cases error with
      | sink error => exact nomatch error
      | cancelled error => exact ⟨pipeline, error, by rw [hcancelled error rfl]⟩
  · obtain ⟨pipeline, report, hattempt⟩ := exists_report hlast
    rw [hnothing] at hattempt
    rw [hattempt] at hsome
    obtain ⟨hreport, -⟩ := hdelivered.emits_reliably accept () .quiet hattempt
    obtain ⟨-, ⟨hall, -⟩ | ⟨-, -, hnone | hdone⟩⟩ := hreport report rfl
    · exact absurd (List.map_eq_nil_iff.1 hall.symm) hsome
    · exact absurd hnone hsome
    · exact ⟨pipeline, report, hattempt, hsome, hdone⟩

end Journal

end TemplateCodegen
