import Mathlib.Data.List.Basic
import TemplateCodegen.Proofs.Pipeline.Journal

/-!
# What a pipeline shows of its passes

A host reads the definitions and the bound usages off two stages in the middle of the graph. A pass
goes through the stages one by one, and each of them keeps what it has come to: where a pass is
cancelled behind such a stage, what is read there is already that of the snapshot under way, and so
it is where the sink fails. Main statement: behind a history in which no pass is reported each
reading is the one in front of it, or that of a complete pass over one of the snapshots since; and a
further pass moves each of the two on exactly when its token lets a certain number of polls pass,
which is smaller for the definitions than for the bound usages, and for both of them smaller than
the number of polls of the whole pass (`Journal.Unreported.readings`).
-/

namespace TemplateCodegen

open Incremental

namespace Pipeline

variable {pipeline : Pipeline}

/-- The pipeline behind an update that nobody stops. -/
def completed (pipeline : Pipeline) : Pipeline := (pipeline.update .quiet).1

/-- The pipeline has the stages and the handles of a fresh one. -/
def IsBuilt (pipeline : Pipeline) : Prop :=
  ∃ config, pipeline.graph.stages = (ofConfig config).graph.stages ∧
    pipeline.wiring = (ofConfig config).wiring

/-! ## The place of what is read -/

/-- The stages of a fresh pipeline that are read lie behind the sources and in front of the output of
the artifacts, those of the definitions in front of those of the bound usages; every stage is an
output or is read by another one; and no definitions and no bound usages are shown. -/
theorem ofConfig_layout (config : Config) :
    (3 < (ofConfig config).wiring.definitions.id ∧
      (ofConfig config).wiring.definitions.id < (ofConfig config).wiring.bound.id ∧
      (ofConfig config).wiring.bound.id < (ofConfig config).wiring.artifacts.id ∧
      (ofConfig config).wiring.artifacts.id < (ofConfig config).graph.nodes.length) ∧
    ((List.range (ofConfig config).graph.nodes.length).all fun id =>
      (ofConfig config).graph.nodes[id]?.any Node.isOutput ||
        (ofConfig config).graph.nodes.any fun reader => reader.inputs.contains id) = true ∧
    (ofConfig config).definitions = [] ∧ (ofConfig config).boundUsages = [] := by
  -- the wiring adds one node behind the other, with numbers that do not depend on the configuration
  simp only [ofConfig, wire, wireDeclarations, wireClaims, wireUsages, wireMultiplicity,
    wireRendering, wireCollection, StageGraph.concat, StageGraph.source, StageGraph.singleSource,
    StageGraph.addMap, StageGraph.map, StageGraph.tryMap, StageGraph.flatMap, StageGraph.mapSingle,
    StageGraph.combine, StageGraph.combineSingle, StageGraph.collect, StageGraph.output,
    StateT.run_bind, StateT.run_pure, pure_bind, StageGraph.run_push]
  cbv
  exact ⟨rfl, rfl⟩

/-- A run of a fresh pipeline asks for every stage. -/
theorem ofConfig_demanded (config : Config) :
    demanded (ofConfig config).graph.nodes =
      List.replicate (ofConfig config).graph.nodes.length true := by
  refine demanded_of_read (ofConfig_isWired config).linked fun id node hnode => ?_
  have hplace := List.all_eq_true.mp (ofConfig_layout config).2.1 id
    (List.mem_range.mpr (List.getElem?_eq_some_iff.mp hnode).1)
  rcases (Bool.or_eq_true _ _).mp hplace with houtput | hread
  · rw [hnode] at houtput
    exact .inl houtput
  · obtain ⟨reader, hreader, hinput⟩ := List.any_eq_true.mp hread
    exact .inr ⟨reader, hreader, List.contains_iff_mem.mp hinput⟩

namespace IsBuilt

/-- A fresh pipeline is built. -/
theorem ofConfig (config : Config) : (Pipeline.ofConfig config).IsBuilt := ⟨config, rfl, rfl⟩

/-- The graph may go on. -/
theorem continues (h : pipeline.IsBuilt) {next : Pipeline}
    (hwiring : next.wiring = pipeline.wiring) (hcontinues : pipeline.graph.Continues next.graph) :
    next.IsBuilt := by
  obtain ⟨config, hstages, hhandles⟩ := h
  exact ⟨config, hcontinues.stages.trans hstages, hwiring.trans hhandles⟩

/-- A built pipeline has as many nodes as a fresh one. -/
theorem length_nodes {config : Config}
    (hstages : pipeline.graph.stages = (Pipeline.ofConfig config).graph.stages) :
    pipeline.graph.nodes.length = (Pipeline.ofConfig config).graph.nodes.length := by
  rw [← StageGraph.length_stages, ← StageGraph.length_stages, hstages]

/-- The stages that are read lie behind the sources and in front of the output of the artifacts. -/
theorem places (h : pipeline.IsBuilt) :
    3 < pipeline.wiring.definitions.id ∧
      pipeline.wiring.definitions.id < pipeline.wiring.bound.id ∧
      pipeline.wiring.bound.id < pipeline.wiring.artifacts.id ∧
      pipeline.wiring.artifacts.id < pipeline.graph.nodes.length := by
  obtain ⟨config, hstages, hwiring⟩ := h
  rw [length_nodes hstages, hwiring]
  exact (ofConfig_layout config).1

/-- The sources are the first four stages. -/
theorem sources (h : pipeline.IsBuilt) :
    pipeline.wiring.config.id = 0 ∧ pipeline.wiring.declarations.id = 1 ∧
      pipeline.wiring.supplementary.id = 2 ∧ pipeline.wiring.usages.id = 3 := by
  obtain ⟨config, _, hwiring⟩ := h
  have hsources := (ofConfig_isWired config).sources
  rw [hwiring]
  exact ⟨hsources.config.1, hsources.declarations.1, hsources.supplementary.1, hsources.usages.1⟩

/-- A run asks for every stage. -/
theorem agenda_eq (h : pipeline.IsBuilt) :
    pipeline.graph.agenda = pipeline.graph.nodes.map fun node => (node, true) := by
  obtain ⟨config, hstages, _⟩ := h
  rw [StageGraph.agenda, demanded_congr hstages, ofConfig_demanded, ← length_nodes hstages]
  exact (List.zip_of_prod (by simp [Function.comp_def]) (by simp [Function.comp_def])).symm

/-- A run goes through all nodes. -/
theorem run_eq (h : pipeline.IsBuilt) (signal : Signal) :
    pipeline.graph.run signal =
      let result := advance [] {} (pipeline.graph.nodes.map fun node => (node, true)) signal
      ({ pipeline.graph with nodes := result.nodes, isComplete := result.outcome.isOk },
        result.signal, result.outcome) := by
  rw [← h.agenda_eq]
  rfl

/-- The runs of a built pipeline are timed. -/
theorem exists_timetable (h : pipeline.IsBuilt) :
    ∃ polls, Timetable [] pipeline.graph.agenda polls := by
  obtain ⟨config, hstages, _⟩ := h
  refine StageGraph.exists_timetable fun stage hstage => ?_
  rw [hstages] at hstage
  exact (ofConfig_allows .all config stage hstage).2

end IsBuilt

/-! ## Updates that are cut -/

/-- An update leaves the values of the stages as its run does. -/
theorem get?_update (pipeline : Pipeline) (signal : Signal) {kind : Kind Traffic}
    (single : Single kind) :
    (pipeline.update signal).1.graph.get? single = (pipeline.graph.run signal).1.get? single := by
  rcases pipeline.update_cases signal with ⟨error, _, heq⟩ | ⟨summary, _, heq⟩
  · rw [heq]
  · rw [heq]
    exact StageGraph.get?_take _ _ single

/-- An update is complete exactly when its run is. -/
theorem update_ok_iff (pipeline : Pipeline) (signal : Signal) :
    (pipeline.update signal).2.2 = .ok () ↔ (pipeline.graph.run signal).2.2.isOk = true := by
  rcases pipeline.update_cases signal with ⟨error, hended, heq⟩ | ⟨summary, hended, heq⟩
  · rw [heq, hended]
    exact ⟨nofun, nofun⟩
  · rw [heq, hended]
    exact ⟨fun _ => rfl, fun _ => rfl⟩

/-- A timed update is complete exactly when all polls pass. -/
theorem update_ok_iff_of_timetable {polls : Nat → Nat}
    (h : Timetable [] pipeline.graph.agenda polls) (token : Token) (spent : List Nat) :
    (pipeline.update ⟨token, spent⟩).2.2 = .ok () ↔
      (token.after (polls pipeline.graph.nodes.length)).isSome = true := by
  obtain ⟨_, _, _, _, hend, _⟩ := h.cut {} token spent
  have hrun : (pipeline.graph.run ⟨token, spent⟩).2.2.isOk =
      (token.after (polls pipeline.graph.agenda.length)).isSome := hend
  rw [update_ok_iff, hrun, pipeline.graph.length_agenda]

/-- A timed update moves a stage on when the polls up to behind the stage pass, and else leaves it
as it was. -/
theorem get?_update_of_timetable {polls : Nat → Nat}
    (h : Timetable [] pipeline.graph.agenda polls) (token : Token) (spent : List Nat)
    {kind : Kind Traffic} {single : Single kind}
    (hid : single.id < pipeline.graph.nodes.length) :
    (pipeline.update ⟨token, spent⟩).1.graph.get? single =
      if (token.after (polls (single.id + 1))).isSome = true then
        pipeline.completed.graph.get? single
      else pipeline.graph.get? single := by
  have hcomplete := StageGraph.getElem?_run h .inert [] hid
  have hcut := StageGraph.getElem?_run h token spent hid
  rw [Token.after_inert] at hcomplete
  rw [completed, get?_update, get?_update]
  split
  · rename_i hpassed
    rw [if_pos hpassed] at hcut
    exact StageGraph.get?_congr (hcut.trans hcomplete.symm)
  · rename_i hstopped
    rw [if_neg hstopped] at hcut
    exact StageGraph.get?_congr hcut

end Pipeline

namespace Journal

variable {host : Host} {journal next : Journal}

/-! ## What one operation does to what is read -/

/-- A pass leaves the values of the stages as its update does. -/
theorem get?_attempt {σ ε : Type} (journal : Journal) (emit : Artifact → StateM σ (Except ε Unit))
    (state : σ) (signal : Signal) {kind : Kind Traffic} (single : Single kind) :
    (journal.attempt emit state signal).1.graph.get? single =
      (journal.pipeline.update signal).1.graph.get? single := by
  rcases journal.attempt_ends emit state signal with ⟨heq | ⟨pending, heq⟩, _⟩
  · rw [heq]
  · rw [heq]
    exact StageGraph.get?_commit _ _ pending single

/-- A pass is cancelled exactly when its update is. -/
theorem attempt_cancelled_iff {σ ε : Type} (journal : Journal)
    (emit : Artifact → StateM σ (Except ε Unit)) (state : σ) (signal : Signal) :
    (∃ error, (journal.attempt emit state signal).2.1 = .error (.cancelled error)) ↔
      (journal.pipeline.update signal).2.2 ≠ .ok () := by
  have hends := journal.pipeline.run_ends (recording emit) signal (state, [])
  unfold attempt
  generalize (journal.pipeline.run (recording emit) signal).run (state, []) = result at hends ⊢
  generalize (journal.pipeline.update signal).2.2 = ended at hends ⊢
  cases hends with
  | cancelled error => exact ⟨fun _ => nofun, fun _ => ⟨error, rfl⟩⟩
  | idle hpending => exact ⟨nofun, fun h => absurd rfl h⟩
  | delivered hpending hvalue hemit => exact ⟨nofun, fun h => absurd rfl h⟩
  | failed hpending hvalue hemit => exact ⟨nofun, fun h => absurd rfl h⟩

/-- A pass lets the graph go on and leaves the handles. -/
theorem continues_attempt {σ ε : Type} (journal : Journal)
    (emit : Artifact → StateM σ (Except ε Unit)) (state : σ) (signal : Signal) :
    (journal.attempt emit state signal).1.wiring = journal.pipeline.wiring ∧
      journal.pipeline.graph.Continues (journal.attempt emit state signal).1.graph := by
  have hwiring := journal.pipeline.wiring_update signal
  have hcontinues := journal.pipeline.continues_update signal
  rcases journal.attempt_ends emit state signal with ⟨heq | ⟨pending, heq⟩, _⟩
  · rw [heq]
    exact ⟨hwiring, hcontinues⟩
  · rw [heq]
    exact ⟨hwiring, hcontinues.trans (StageGraph.continues_commit _ _ pending)⟩

/-- An operation lets the graph go on and leaves the handles. -/
theorem Step.continues (hstep : journal.Step host next) :
    next.pipeline.wiring = journal.pipeline.wiring ∧
      journal.pipeline.graph.Continues next.pipeline.graph := by
  cases hstep with
  | setDeclarations declarations _ => exact ⟨rfl, StageGraph.continues_setValues _ _ _ _⟩
  | setSupplementary declarations _ => exact ⟨rfl, StageGraph.continues_setValues _ _ _ _⟩
  | setUsages usages _ => exact ⟨rfl, StageGraph.continues_setValues _ _ _ _⟩
  | setConfig config _ =>
    have hparallel : journal.pipeline.graph.Continues
        (journal.pipeline.graph.setParallel config.isParallel) :=
      ⟨rfl, (StageGraph.Continues.refl _).advances⟩
    exact ⟨rfl, hparallel.trans (StageGraph.continues_setValues _ _ _ _)⟩
  | pass emit state signal =>
    rw [journal.pass_eq]
    exact journal.continues_attempt emit state signal

/-- An operation keeps the passes so far. -/
theorem Step.passes_prefix (hstep : journal.Step host next) : journal.passes <+: next.passes := by
  cases hstep with
  | setDeclarations declarations _ => exact List.prefix_rfl
  | setSupplementary declarations _ => exact List.prefix_rfl
  | setUsages usages _ => exact List.prefix_rfl
  | setConfig config _ => exact List.prefix_rfl
  | pass emit state signal =>
    rw [journal.pass_eq]
    exact List.prefix_append _ _

/-- An operation leaves the value of a stage behind the sources, or it is a pass and moves the value
on to that of a complete pass. -/
theorem Step.get?_cases (hbuilt : journal.pipeline.IsBuilt) (hstep : journal.Step host next)
    {kind : Kind Traffic} {single : Single kind} (hinner : 3 < single.id)
    (hid : single.id < journal.pipeline.graph.nodes.length) :
    next.pipeline.graph.get? single = journal.pipeline.graph.get? single ∨
      (journal.passes.length < next.passes.length ∧
        next.pipeline.graph.get? single = journal.pipeline.completed.graph.get? single) := by
  obtain ⟨hconfig, hdeclarations, hsupplementary, husages⟩ := hbuilt.sources
  cases hstep with
  | setDeclarations declarations _ =>
    exact .inl (StageGraph.get?_setValues_of_ne _ _ (by omega))
  | setSupplementary declarations _ =>
    exact .inl (StageGraph.get?_setValues_of_ne _ _ (by omega))
  | setUsages usages _ => exact .inl (StageGraph.get?_setValues_of_ne _ _ (by omega))
  | setConfig config _ =>
    have hne : journal.pipeline.wiring.config.id ≠ single.id := by omega
    exact .inl (StageGraph.get?_setValues_of_ne
      (journal.pipeline.graph.setParallel config.isParallel)
      ([config] : List Traffic.config.kind.Val) hne)
  | pass emit state signal =>
    obtain ⟨token, spent⟩ := signal
    obtain ⟨polls, hpolls⟩ := hbuilt.exists_timetable
    have hcut := Pipeline.get?_update_of_timetable hpolls token spent hid
    rw [← journal.get?_attempt emit state ⟨token, spent⟩] at hcut
    rw [journal.pass_eq]
    dsimp only
    rw [List.length_append, List.length_singleton]
    split at hcut
    · exact .inr ⟨Nat.lt_succ_self _, hcut⟩
    · exact .inl hcut

/-- Every history is one of a built pipeline. -/
theorem Reachable.isBuilt (h : journal.Reachable host) : journal.pipeline.IsBuilt := by
  induction h with
  | fresh config _ => exact .ofConfig config
  | step _ hstep ih => exact ih.continues hstep.continues.1 hstep.continues.2

/-! ## Histories without a report -/

/-- The reports of the passes so far. -/
def reports (journal : Journal) : List Report := journal.passes.filterMap PassRecord.report?

/-- The histories behind a journal in which no pass is reported. -/
inductive Unreported (host : Host) (start : Journal) : Journal → Prop where
  | refl : Unreported host start start
  | step {journal next : Journal} (h : Unreported host start journal)
    (hstep : journal.Step host next) (hreports : next.reports = journal.reports) :
    Unreported host start next

/-- What is read is what was read at the start, or what a complete pass over a snapshot since would
give to read, where a pass was made behind that snapshot. -/
def Shows {α : Type} (host : Host) (start journal : Journal) (reading : Pipeline → α) : Prop :=
  reading journal.pipeline = reading start.pipeline ∨
    ∃ between, start.Unreported host between ∧ between.Unreported host journal ∧
      between.passes.length < journal.passes.length ∧
      reading journal.pipeline = reading between.pipeline.completed

/-- Without a pass what is read is what was read at the start. -/
theorem Shows.eq_of_no_passes {α : Type} {start : Journal} {reading : Pipeline → α}
    (h : start.Shows host journal reading) (hnone : journal.passes = []) :
    reading journal.pipeline = reading start.pipeline := by
  rcases h with hsame | ⟨between, _, _, hlt, _⟩
  · exact hsame
  · rw [hnone] at hlt
    exact absurd hlt (Nat.not_lt_zero _)

/-- A pass that is reported adds its report, and every other one adds none. -/
theorem reports_pass {σ ε : Type} (journal : Journal) (emit : Artifact → StateM σ (Except ε Unit))
    (state : σ) (signal : Signal) :
    (journal.pass emit state signal).reports =
      journal.reports ++ (journal.attempt emit state signal).2.1.toOption.toList := by
  rw [journal.pass_eq]
  unfold reports
  rw [List.filterMap_append]
  cases (journal.attempt emit state signal).2.1 with
  | error error => rfl
  | ok report => rfl

namespace Unreported

variable {start : Journal}

/-- A pass that is cancelled is not reported. -/
theorem of_cancelled {σ ε : Type} {emit : Artifact → StateM σ (Except ε Unit)} {state : σ}
    {signal : Signal}
    (h : ∃ error, (journal.attempt emit state signal).2.1 = .error (.cancelled error)) :
    journal.Unreported host (journal.pass emit state signal) := by
  obtain ⟨error, herror⟩ := h
  refine .step .refl (.pass emit state signal) ?_
  rw [reports_pass, herror]
  exact List.append_nil _

/-- A history without a report is a history. -/
theorem reachable (hstart : start.Reachable host) (h : start.Unreported host journal) :
    journal.Reachable host := by
  induction h with
  | refl => exact hstart
  | step _ hstep _ ih => exact ih.step hstep

/-- A history leaves the handles and the number of nodes. -/
theorem continues (h : start.Unreported host journal) :
    journal.pipeline.wiring = start.pipeline.wiring ∧
      start.pipeline.graph.Continues journal.pipeline.graph := by
  induction h with
  | refl => exact ⟨rfl, .refl _⟩
  | step _ hstep _ ih =>
    exact ⟨hstep.continues.1.trans ih.1, ih.2.trans hstep.continues.2⟩

/-- Every history without a report leaves the value of a stage behind the sources, or moves it on to
that of a complete pass. -/
theorem shows_get? (hstart : start.Reachable host) (h : start.Unreported host journal)
    {kind : Kind Traffic} {single : Single kind} (hinner : 3 < single.id)
    (hid : single.id < start.pipeline.graph.nodes.length) :
    start.Shows host journal fun pipeline => pipeline.graph.get? single := by
  induction h with
  | refl => exact .inl rfl
  | @step journal next h hstep hreports ih =>
    have hplace := h.continues.2.length_nodes ▸ hid
    rcases hstep.get?_cases (h.reachable hstart).isBuilt hinner hplace with
      hsame | ⟨hpasses, hmoved⟩
    · rcases ih with hfirst | ⟨between, hbefore, hbehind, hlt, hvalue⟩
      · exact .inl (hsame.trans hfirst)
      · exact .inr ⟨between, hbefore, hbehind.step hstep hreports,
          Nat.lt_of_lt_of_le hlt hstep.passes_prefix.length_le, hsame.trans hvalue⟩
    · exact .inr ⟨journal, h, .step .refl hstep hreports, hpasses, hmoved⟩

/-- What is read through a handle is made of the value of its stage. -/
theorem shows_handle (hstart : start.Reachable host) (h : start.Unreported host journal)
    {kind : Kind Traffic} {α : Type} (handle : Wiring → Single kind) (read : Option kind.Val → α)
    (hinner : 3 < (handle start.pipeline.wiring).id)
    (hid : (handle start.pipeline.wiring).id < start.pipeline.graph.nodes.length) :
    start.Shows host journal fun pipeline =>
      read (pipeline.graph.get? (handle pipeline.wiring)) := by
  have hwiring := h.continues.1
  rcases h.shows_get? hstart hinner hid with hfirst | ⟨between, hbefore, hbehind, hlt, hvalue⟩
  · refine .inl ?_
    dsimp only at hfirst ⊢
    rw [hwiring, hfirst]
  · refine .inr ⟨between, hbefore, hbehind, hlt, ?_⟩
    have hbetween : between.pipeline.completed.wiring = start.pipeline.wiring :=
      (between.pipeline.wiring_update .quiet).trans hbefore.continues.1
    dsimp only at hvalue ⊢
    rw [hwiring, hbetween, hvalue]

end Unreported

/-- Behind any history without a report the definitions and the bound usages are those of its start
or of a complete pass since. -/
theorem Unreported.shows {start : Journal} (hstart : start.Reachable host)
    (h : start.Unreported host journal) :
    start.Shows host journal Pipeline.definitions ∧
      start.Shows host journal Pipeline.boundUsages := by
  obtain ⟨hinner, hdefinitions, hbound, hartifacts⟩ := hstart.isBuilt.places
  exact ⟨h.shows_handle hstart Wiring.definitions (fun value? => value?.getD []) hinner (by omega),
    h.shows_handle hstart Wiring.bound (fun value? => value?.getD []) (by omega) (by omega)⟩

/-- A history without passes is one of edits to a fresh pipeline. -/
theorem Reachable.exists_fresh (h : journal.Reachable host) (hnone : journal.passes = []) :
    ∃ config, (ofConfig config).Reachable host ∧ (ofConfig config).Unreported host journal := by
  induction h with
  | fresh config hconfig => exact ⟨config, .fresh config hconfig, .refl⟩
  | @step journal next _ hstep ih =>
    have hbefore : journal.passes = [] := List.prefix_nil.mp (hnone ▸ hstep.passes_prefix)
    obtain ⟨config, hfresh, hedits⟩ := ih hbefore
    refine ⟨config, hfresh, hedits.step hstep ?_⟩
    rw [reports, reports, hnone, hbefore]

/-- In front of the first pass nothing is shown. -/
theorem Reachable.shows_nothing (h : journal.Reachable host) (hnone : journal.passes = []) :
    journal.pipeline.definitions = [] ∧ journal.pipeline.boundUsages = [] := by
  obtain ⟨config, hfresh, hedits⟩ := h.exists_fresh hnone
  obtain ⟨-, -, hdefinitions, hbound⟩ := Pipeline.ofConfig_layout config
  obtain ⟨hshown, hshownBound⟩ := hedits.shows hfresh
  exact ⟨(hshown.eq_of_no_passes hnone).trans hdefinitions,
    (hshownBound.eq_of_no_passes hnone).trans hbound⟩

/-! ## What a pass does to what is read -/

/-- What is read is moved on to what a complete pass leaves when so many polls of the pass find no
request, and is left when one of them does; whatever the sink does. -/
def MovesOn {α : Type} (journal : Journal) (reading : Pipeline → α) (polls : Nat) : Prop :=
  ∀ {σ ε : Type} (emit : Artifact → StateM σ (Except ε Unit)) (state : σ) (token : Token)
    (spent : List Nat),
    reading (journal.attempt emit state ⟨token, spent⟩).1 =
      if (token.after polls).isSome = true then reading journal.pipeline.completed
      else reading journal.pipeline

/-- What is read through a handle is moved on by the polls up to behind its stage. -/
theorem movesOn_handle {polls : Nat → Nat} (h : Timetable [] journal.pipeline.graph.agenda polls)
    {kind : Kind Traffic} {α : Type} (handle : Wiring → Single kind) (read : Option kind.Val → α)
    (hid : (handle journal.pipeline.wiring).id < journal.pipeline.graph.nodes.length) :
    journal.MovesOn (fun pipeline => read (pipeline.graph.get? (handle pipeline.wiring)))
      (polls ((handle journal.pipeline.wiring).id + 1)) := by
  intro σ ε emit state token spent
  have hcut := Pipeline.get?_update_of_timetable h token spent hid
  rw [← journal.get?_attempt emit state ⟨token, spent⟩] at hcut
  have hcompleted : journal.pipeline.completed.wiring = journal.pipeline.wiring :=
    journal.pipeline.wiring_update .quiet
  dsimp only
  rw [(journal.continues_attempt emit state ⟨token, spent⟩).1, hcompleted, hcut]
  split
  · rfl
  · rfl

/-- How many polls of a pass lie in front of what it moves on. -/
structure Cuts (journal : Journal) (early late total : Nat) : Prop where
  /-- A pass that is cancelled beforehand moves nothing on. -/
  early_pos : 0 < early
  /-- The definitions are moved on in front of the bound usages. -/
  early_lt_late : early < late
  /-- The bound usages are moved on in front of the end. -/
  late_lt_total : late < total
  /-- A pass is cancelled when the request is there for one of its polls. -/
  cancelled_iff {σ ε : Type} (emit : Artifact → StateM σ (Except ε Unit)) (state : σ)
    (token : Token) (spent : List Nat) :
    (∃ error, (journal.attempt emit state ⟨token, spent⟩).2.1 = .error (.cancelled error)) ↔
      token.after total = none
  /-- The definitions are moved on by the first polls. -/
  definitions : journal.MovesOn Pipeline.definitions early
  /-- The bound usages are moved on by some more. -/
  boundUsages : journal.MovesOn Pipeline.boundUsages late

/-- The polls of every pass are counted. -/
theorem Reachable.exists_cuts (h : journal.Reachable host) :
    ∃ early late total, journal.Cuts early late total := by
  have hbuilt := h.isBuilt
  obtain ⟨hinner, hdefinitions, hbound, hartifacts⟩ := hbuilt.places
  obtain ⟨polls, hpolls⟩ := hbuilt.exists_timetable
  -- The stages that are read and the output behind them are asked for: each of them takes a poll.
  have hasked : ∀ id, id < journal.pipeline.graph.nodes.length →
      ∃ node, journal.pipeline.graph.agenda[id]? = some (node, true) := fun id hid =>
    ⟨_, by rw [hbuilt.agenda_eq, List.getElem?_map, List.getElem?_eq_getElem hid, Option.map_some]⟩
  obtain ⟨first, hfirst⟩ := hasked journal.pipeline.wiring.definitions.id (by omega)
  obtain ⟨second, hsecond⟩ := hasked journal.pipeline.wiring.bound.id (by omega)
  obtain ⟨last, hlast⟩ := hasked _ hartifacts
  refine ⟨polls (journal.pipeline.wiring.definitions.id + 1),
    polls (journal.pipeline.wiring.bound.id + 1), polls journal.pipeline.graph.nodes.length, ?_⟩
  exact
    { early_pos := hpolls.start ▸ hpolls.lt hfirst (Nat.zero_le _) (Nat.lt_succ_self _)
      early_lt_late := hpolls.lt hsecond hdefinitions (Nat.lt_succ_self _)
      late_lt_total := hpolls.lt hlast hbound hartifacts
      cancelled_iff := fun emit state token spent => by
        rw [journal.attempt_cancelled_iff, ne_eq, Pipeline.update_ok_iff_of_timetable hpolls]
        simp
      definitions := movesOn_handle hpolls Wiring.definitions (fun value? => value?.getD [])
        (by omega)
      boundUsages := movesOn_handle hpolls Wiring.bound (fun value? => value?.getD []) (by omega) }

/-- Behind a history in which no pass is reported the definitions and the bound usages are those of
its start, which are none in front of the first pass, or those of a complete pass over a snapshot
since, behind which a pass was made. The next pass moves the definitions on to those of a complete
pass exactly when a certain number of its polls find no request, and the bound usages when some more
do; both are fewer than the polls of the whole pass. So a pass that is cancelled leaves the
definitions, or the bound usages, exactly when it is cancelled at one of the polls in front of them
or a complete pass would leave them as well. -/
theorem Unreported.readings {start : Journal} (hstart : start.Reachable host)
    (h : start.Unreported host journal) :
    (start.passes = [] → start.pipeline.definitions = [] ∧ start.pipeline.boundUsages = []) ∧
      start.Shows host journal Pipeline.definitions ∧
      start.Shows host journal Pipeline.boundUsages ∧
      ∃ early late total, journal.Cuts early late total :=
  have hshows := h.shows hstart
  ⟨hstart.shows_nothing, hshows.1, hshows.2, (h.reachable hstart).exists_cuts⟩

/-- The request to stop comes at the seventy-first poll. -/
def lateRequest : Signal := ⟨.live (some 70), []⟩

/-- A pass of the greeting pipeline takes more polls than that. -/
theorem greeting_attempt_cancelled :
    ∃ error, (greeting.attempt accept () lateRequest).2.1 = .error (.cancelled error) := by
  rw [attempt_cancelled_iff, ne_eq, Pipeline.update_ok_iff, greeting_reachable.isBuilt.run_eq]
  decide +kernel

/-- A cancelled pass is no report; the pass behind it moves on what is read as every pass does. -/
theorem greeting_readings :
    greeting.Reachable .all ∧
      greeting.Unreported .all (greeting.pass accept () lateRequest) ∧
      greeting.Shows .all (greeting.pass accept () lateRequest) Pipeline.definitions ∧
      ∃ early late total, (greeting.pass accept () lateRequest).Cuts early late total := by
  have hunreported : greeting.Unreported .all (greeting.pass accept () lateRequest) :=
    .of_cancelled greeting_attempt_cancelled
  obtain ⟨_, hdefinitions, _, hcuts⟩ := Unreported.readings greeting_reachable hunreported
  exact ⟨greeting_reachable, hunreported, hdefinitions, hcuts⟩

/-- No pass has been made, so nothing is to be read; but behind the first pass, which is cancelled,
there are a definition and a bound usage. -/
theorem greeting_reads_ahead :
    greeting.Reachable .all ∧ greeting.passes = [] ∧
      (∃ error, (greeting.attempt accept () lateRequest).2.1 = .error (.cancelled error)) ∧
      (greeting.pipeline.definitions = [] ∧
        (greeting.attempt accept () lateRequest).1.definitions ≠ []) ∧
      (greeting.pipeline.boundUsages = [] ∧
        (greeting.attempt accept () lateRequest).1.boundUsages ≠ []) := by
  have hbuilt := greeting_reachable.isBuilt
  obtain ⟨hwiring, _⟩ := greeting.continues_attempt accept () lateRequest
  obtain ⟨hnone, hnoneBound⟩ := greeting_reachable.shows_nothing rfl
  have hdefinitions : (greeting.attempt accept () lateRequest).1.definitions.length = 1 := by
    rw [Pipeline.definitions, hwiring, get?_attempt, Pipeline.get?_update, hbuilt.run_eq]
    decide +kernel
  have husages : (greeting.attempt accept () lateRequest).1.boundUsages.length = 1 := by
    rw [Pipeline.boundUsages, hwiring, get?_attempt, Pipeline.get?_update, hbuilt.run_eq]
    decide +kernel
  refine ⟨greeting_reachable, rfl, greeting_attempt_cancelled, ⟨hnone, fun hempty => ?_⟩,
    ⟨hnoneBound, fun hempty => ?_⟩⟩
  · rw [hempty] at hdefinitions
    cases hdefinitions
  · rw [hempty] at husages
    cases husages

end Journal

end TemplateCodegen
