import Mathlib.Logic.Relation
import TemplateCodegen.Proofs.Incremental.Economy

/-!
# What outputs show between runs

Between two runs the host may add stages, supply values and work at outputs. Of the nodes that are
there only sources and outputs are overwritten meanwhile, so a stage that is evaluated at all either
has not been evaluated yet and holds nothing, or holds what the last complete run left there. A
source holds what it has been supplied with last, whether or not a run has seen it. Main statement:
behind anything but a source every output shows the value from scratch for what the sources were
supplied with at the last complete run; right behind a source it shows what has been supplied last
(`Session.Reachable.shows_lastRun`).
-/

namespace TemplateCodegen.Incremental

variable {β : Type} [Payload β] [DecidableEq β]

/-! ## Stages that are added -/

/-- Stages that are added leave what the others give from scratch. -/
theorem scratch_getElem?_append (supply : Supply β) {stages : List (Stage β)}
    (added : List (Stage β)) {id : Nat} (hid : id < stages.length) :
    (scratch supply (stages ++ added))[id]? = (scratch supply stages)[id]? := by
  have hfront := scratch_take supply (stages ++ added) stages.length
  rw [List.take_left] at hfront
  rw [hfront, List.getElem?_take_of_lt hid]

omit [DecidableEq β] in
/-- What an output depends on it depends on when stages are added. -/
theorem Wanted.append {stages : List (Stage β)} {id : Nat} (h : Wanted stages id)
    (added : List (Stage β)) : Wanted (stages ++ added) id := by
  have hplace : ∀ {place : Nat} {stage : Stage β}, stages[place]? = some stage →
      (stages ++ added)[place]? = some stage := by
    intro place stage hstage
    obtain ⟨hlt, _⟩ := List.getElem?_eq_some_iff.mp hstage
    rwa [List.getElem?_append_left hlt]
  induction h with
  | output place houtput => exact .output (hplace place) houtput
  | input _ place hinput ih => exact .input ih (hplace place) hinput

/-! ## Operations between runs -/

namespace StageGraph

/-- An operation that evaluates nothing, seen from the graph: blank nodes are added, or a node that
is never evaluated is overwritten. -/
inductive Rests (before after : StageGraph β) : Prop where
  | build (added : List (Node β)) (hblank : ∀ node ∈ added, node.IsBlank)
    (hnodes : after.nodes = before.nodes ++ added)
    (hcomplete : after.isComplete = before.isComplete)
  | overwrite {id : Nat} {node next : Node β} (hnode : before.nodes[id]? = some node)
    (hnodes : after.nodes = before.nodes.set id next) (hstage : next.stage = node.stage)
    (hcomputing : node.stage.isComputing = false)
    (hcomplete : after.isComplete = before.isComplete)

omit [DecidableEq β] in
/-- A graph that is left as it is. -/
theorem Rests.stay {before after : StageGraph β} (hnodes : after.nodes = before.nodes)
    (hcomplete : after.isComplete = before.isComplete) : before.Rests after :=
  .build [] (by simp) (by rw [hnodes, List.append_nil]) hcomplete

omit [DecidableEq β] in
/-- Adding one blank node. -/
theorem Rests.withNode (graph : StageGraph β) {node : Node β} (h : node.IsBlank) :
    graph.Rests (graph.withNode node) :=
  .build [node] (by simpa using h) rfl rfl

omit [DecidableEq β] in
/-- Whether the last run was complete is not changed. -/
theorem Rests.isComplete_eq {before after : StageGraph β} (h : before.Rests after) :
    after.isComplete = before.isComplete := by
  cases h with
  | build added hblank hnodes hcomplete => exact hcomplete
  | overwrite hnode hnodes hstage hcomputing hcomplete => exact hcomplete

omit [DecidableEq β] in
/-- No stage is removed or changed. -/
theorem Rests.exists_stages {before after : StageGraph β} (h : before.Rests after) :
    ∃ added, after.stages = before.stages ++ added := by
  cases h with
  | build added hblank hnodes hcomplete =>
    refine ⟨added.map Node.stage, ?_⟩
    rw [stages, hnodes, List.map_append]
    rfl
  | overwrite hnode hnodes hstage hcomputing hcomplete =>
    refine ⟨[], ?_⟩
    rw [stages, hnodes, List.append_nil]
    exact map_stage_set hnode hstage

omit [DecidableEq β] in
/-- A node that is evaluated at all has just been added, or it was there as it is. -/
theorem Rests.isBlank_or_stands {before after : StageGraph β} (h : before.Rests after) {id : Nat}
    {node : Node β} (hnode : after.nodes[id]? = some node)
    (hcomputing : node.stage.isComputing = true) :
    node.IsBlank ∨ before.nodes[id]? = some node := by
  cases h with
  | build added hblank hnodes hcomplete =>
    rw [hnodes] at hnode
    by_cases hid : id < before.nodes.length
    · rw [List.getElem?_append_left hid] at hnode
      exact .inr hnode
    · rw [List.getElem?_append_right (by omega)] at hnode
      exact .inl (hblank node (List.mem_of_getElem? hnode))
  | @overwrite place found next hfound hnodes hstage hsource hcomplete =>
    rw [hnodes] at hnode
    by_cases hplace : place = id
    · -- what is overwritten is never evaluated
      obtain ⟨hlt, _⟩ := List.getElem?_eq_some_iff.mp hfound
      subst hplace
      rw [List.getElem?_set_self hlt] at hnode
      obtain rfl := Option.some.inj hnode
      rw [hstage, hsource] at hcomputing
      cases hcomputing
    · rw [List.getElem?_set_ne hplace] at hnode
      exact .inr hnode

/-- Supplying values overwrites a source at most. -/
theorem rests_setValues (graph : StageGraph β) (kind : Kind β) (id : Nat)
    (values : List kind.Val) : graph.Rests (graph.setValues kind id values).1 := by
  rcases graph.setValues_cases kind id values with ⟨inner, hinner, h⟩ | ⟨_, h⟩
  · rw [h]
    exact .overwrite hinner rfl rfl rfl rfl
  · rw [h]
    exact .stay rfl rfl

/-- A commit overwrites an output at most. -/
theorem rests_commit {kind : Kind β} (graph : StageGraph β) (output : Output kind)
    (pending : Pending kind) : graph.Rests (graph.commit output pending) := by
  rcases graph.commit_cases output pending with ⟨inner, hinner, h⟩ | ⟨_, h⟩
  · rw [h]
    exact .overwrite hinner rfl rfl rfl rfl
  · rw [h]
    exact .stay rfl rfl

/-- Taking a value overwrites an output at most. -/
theorem rests_take {kind : Kind β} (graph : StageGraph β) (output : Output kind) :
    graph.Rests (graph.take output).1 := by
  rcases graph.take_cases output with ⟨pending, _, h⟩ | ⟨_, h⟩
  · rw [h]
    exact graph.rests_commit output pending
  · rw [h]
    exact .stay rfl rfl

end StageGraph

namespace Session

omit [DecidableEq β] in
/-- The number of handles issued so far. -/
def issued (session : Session β) : Nat :=
  session.sources.length + session.singleSources.length + session.values.length +
    session.singles.length + session.outputs.length

omit [DecidableEq β] in
/-- One more handle of a source. -/
theorem issued_source (session : Session β) (graph : StageGraph β) (supplied : Supply β)
    (handle : (kind : Kind β) × Source kind) :
    issued { session with graph, supplied, sources := handle :: session.sources } =
      session.issued + 1 := by
  simp only [issued, List.length_cons]
  omega

omit [DecidableEq β] in
/-- One more handle of a source of one value. -/
theorem issued_singleSource (session : Session β) (graph : StageGraph β) (supplied : Supply β)
    (handle : (kind : Kind β) × SingleSource kind) :
    issued { session with graph, supplied, singleSources := handle :: session.singleSources } =
      session.issued + 1 := by
  simp only [issued, List.length_cons]
  omega

omit [DecidableEq β] in
/-- One more handle of values. -/
theorem issued_values (session : Session β) (graph : StageGraph β)
    (handle : (kind : Kind β) × Values kind) :
    issued { session with graph, values := handle :: session.values } = session.issued + 1 := by
  simp only [issued, List.length_cons]
  omega

omit [DecidableEq β] in
/-- One more handle of one value. -/
theorem issued_single (session : Session β) (graph : StageGraph β)
    (handle : (kind : Kind β) × Single kind) :
    issued { session with graph, singles := handle :: session.singles } = session.issued + 1 := by
  simp only [issued, List.length_cons]
  omega

/-- The session behind a run. -/
def afterRun (session : Session β) (signal : Signal) : Session β :=
  { session with graph := (session.graph.run signal).1 }

/-- One operation of the host between runs: it is issued a handle, supplies values, allows or
forbids work side by side, or works at an output. -/
inductive Pause (session : Session β) : Session β → Prop where
  | issue {next : Session β} (h : session.Step next) (hissued : next.issued = session.issued + 1) :
    Pause session next
  | setSource {kind : Kind β} {source : Source kind} (h : ⟨kind, source⟩ ∈ session.sources)
    (values : List kind.Val) :
    Pause session { session with
      graph := (session.graph.setSource source values).1
      supplied := session.supplied.set source.id kind values }
  | setSingle {kind : Kind β} {source : SingleSource kind}
    (h : ⟨kind, source⟩ ∈ session.singleSources) (value : kind.Val) :
    Pause session { session with
      graph := (session.graph.setSingle source value).1
      supplied := session.supplied.set source.id kind [value] }
  | setParallel (isParallel : Bool) :
    Pause session { session with graph := session.graph.setParallel isParallel }
  | take {kind : Kind β} {output : Output kind} (h : ⟨kind, output⟩ ∈ session.outputs) :
    Pause session { session with graph := (session.graph.take output).1 }
  | commit {kind : Kind β} {output : Output kind} (h : ⟨kind, output⟩ ∈ session.outputs)
    (pending : Pending kind) :
    Pause session { session with graph := session.graph.commit output pending }

variable {session next : Session β}

/-- What the host does between runs is something that it can do. -/
theorem Pause.step (h : session.Pause next) : session.Step next := by
  cases h with
  | issue h hissued => exact h
  | setSource h values => exact .setSource h values
  | setSingle h value => exact .setSingle h value
  | setParallel isParallel => exact .setParallel isParallel
  | take h => exact .take h
  | commit h pending => exact .commit h pending

/-- Every operation of the host is a run, or stands between runs and evaluates nothing. -/
theorem Step.pause_or_run (h : session.Step next) :
    (session.Pause next ∧ session.graph.Rests next.graph) ∨
      ∃ signal, next = session.afterRun signal := by
  have hissue : next.issued = session.issued + 1 → session.graph.Rests next.graph →
      (session.Pause next ∧ session.graph.Rests next.graph) ∨
        ∃ signal, next = session.afterRun signal :=
    fun hissued hrests => .inl ⟨.issue h hissued, hrests⟩
  cases h with
  | source kind => exact hissue (session.issued_source ..) (.withNode _ trivial)
  | singleSource kind initial => exact hissue (session.issued_singleSource ..) (.withNode _ trivial)
  | sourceValues | asValues => exact hissue (session.issued_values ..) (.stay rfl rfl)
  | sourceValue => exact hissue (session.issued_single ..) (.stay rfl rfl)
  | map | tryMap | flatMap | filter =>
    exact hissue (session.issued_values ..) (.withNode _ ⟨rfl, rfl, rfl⟩)
  | mapSingle => exact hissue (session.issued_single ..) (.withNode _ ⟨rfl, rfl, rfl⟩)
  | combine => exact hissue (session.issued_values ..) (.withNode _ ⟨rfl, rfl⟩)
  | combineSingle => exact hissue (session.issued_single ..) (.withNode _ ⟨rfl, rfl⟩)
  | collect => exact hissue (session.issued_single ..) (.withNode _ ⟨rfl, rfl⟩)
  | @concat kind left right hleft hright =>
    refine hissue (session.issued_single ..) (.build [.combine (.list kind) (.list kind)
      { leftSource := left.id, rightSource := right.id }, .map _ _ _] (fun node hnode => ?_)
      (List.append_assoc _ _ _) rfl)
    simp only [List.mem_cons, List.not_mem_nil, or_false] at hnode
    rcases hnode with rfl | rfl
    · exact ⟨rfl, rfl⟩
    · exact ⟨rfl, rfl, rfl⟩
  | output => exact hissue rfl (.withNode _ rfl)
  | setSource hsource values =>
    exact .inl ⟨.setSource hsource values, session.graph.rests_setValues _ _ values⟩
  | setSingle hsource value =>
    exact .inl ⟨.setSingle hsource value, session.graph.rests_setValues _ _ [value]⟩
  | setParallel isParallel => exact .inl ⟨.setParallel isParallel, .stay rfl rfl⟩
  | run signal => exact .inr ⟨signal, rfl⟩
  | take houtput => exact .inl ⟨.take houtput, session.graph.rests_take _⟩
  | commit houtput pending =>
    exact .inl ⟨.commit houtput pending, session.graph.rests_commit _ pending⟩

/-- Between runs nothing is evaluated. -/
theorem Pause.rests (h : session.Pause next) : session.graph.Rests next.graph := by
  cases h with
  | issue h hissued =>
    rcases h.pause_or_run with ⟨_, hrests⟩ | ⟨signal, rfl⟩
    · exact hrests
    · -- a run issues no handle
      have hsame : (session.afterRun signal).issued = session.issued := rfl
      omega
  | setSource h values => exact session.graph.rests_setValues _ _ values
  | setSingle h value => exact session.graph.rests_setValues _ _ [value]
  | setParallel isParallel => exact .stay rfl rfl
  | take h => exact session.graph.rests_take _
  | commit h pending => exact session.graph.rests_commit _ pending

end Session

/-! ## What stages hold between runs -/

omit [DecidableEq β] in
/-- A blank node that is evaluated at all holds no values. -/
theorem Node.IsBlank.values_eq_nil {node : Node β} (h : node.IsBlank)
    (hcomputing : node.stage.isComputing = true) {kind : Kind β} {slot : Slot kind.Val}
    (hheld : node.held? = some ⟨kind, slot⟩) : slot.values = [] := by
  cases node with
  | source found inner => cases hcomputing
  | output found inner => cases hcomputing
  | map domain codomain inner =>
    cases hheld
    exact h.2.2
  | combine left right inner =>
    cases hheld
    exact h.2
  | collect found inner =>
    cases hheld
    exact h.2

namespace StageGraph

/-- Every stage that is evaluated at all is blank or has what it gives from scratch for a supply. -/
def HoldsRun (supply : Supply β) (graph : StageGraph β) : Prop :=
  ∀ (id : Nat) (node : Node β), graph.nodes[id]? = some node → node.stage.isComputing = true →
    node.IsBlank ∨ (scratch supply graph.stages)[id]? = some node.batch?

/-- Operations between runs leave what a run has left. -/
theorem HoldsRun.rests {supply : Supply β} {before after : StageGraph β}
    (h : before.HoldsRun supply) (hrests : before.Rests after) : after.HoldsRun supply := by
  intro id node hnode hcomputing
  obtain ⟨added, hstages⟩ := hrests.exists_stages
  rcases hrests.isBlank_or_stands hnode hcomputing with hblank | hstands
  · exact .inl hblank
  · obtain ⟨hid, _⟩ := List.getElem?_eq_some_iff.mp hstands
    rw [hstages, scratch_getElem?_append supply added (before.length_stages.symm ▸ hid)]
    exact h id node hstands hcomputing

/-- Every stage that is evaluated at all is blank, unless an output depends on it. -/
def SparesUnwanted (graph : StageGraph β) : Prop :=
  ∀ (id : Nat) (node : Node β), graph.nodes[id]? = some node → node.stage.isComputing = true →
    node.IsBlank ∨ Wanted graph.stages id

omit [DecidableEq β] in
/-- Operations between runs evaluate nothing. -/
theorem SparesUnwanted.rests {before after : StageGraph β} (h : before.SparesUnwanted)
    (hrests : before.Rests after) : after.SparesUnwanted := by
  intro id node hnode hcomputing
  obtain ⟨added, hstages⟩ := hrests.exists_stages
  rcases hrests.isBlank_or_stands hnode hcomputing with hblank | hstands
  · exact .inl hblank
  · rw [hstages]
    exact (h id node hstands hcomputing).imp_right fun hwanted => hwanted.append added

/-- A run evaluates nothing but what an output depends on, complete or cancelled. -/
theorem SparesUnwanted.run {graph : StageGraph β} (h : graph.SparesUnwanted) (signal : Signal) :
    (graph.run signal).1.SparesUnwanted := by
  intro id next hnext hcomputing
  rw [graph.stages_run signal]
  have hid : id < graph.nodes.length := by
    obtain ⟨hlt, _⟩ := List.getElem?_eq_some_iff.mp hnext
    rwa [graph.length_run signal] at hlt
  have hnode := List.getElem?_eq_getElem hid
  rcases graph.run_getElem? signal hnode with hstands | ⟨hmark, _⟩
  · rw [hstands] at hnext
    exact h id next (hnode.trans hnext) hcomputing
  · exact .inr (wanted_of_demandedAfter hmark)

/-- A complete run leaves in every stage what it gives from scratch, where an output depends on it.
-/
theorem SparesUnwanted.holdsRun {graph : StageGraph β} (h : graph.SparesUnwanted)
    {admission : Admission β} (hsettled : Settled admission graph.nodes)
    (hfaithful : admission.IsFaithful) {supply : Supply β}
    (hsupplied : IsSupplied supply graph.nodes) {signal : Signal} {summary : Summary}
    (hok : (graph.run signal).2.2 = .ok summary) : (graph.run signal).1.HoldsRun supply := by
  intro id next hnext hcomputing
  refine (h.run signal id next hnext hcomputing).imp_right fun hwanted => ?_
  rw [graph.stages_run signal] at hwanted ⊢
  have hholds := hsettled.run_ok_batch? hfaithful hsupplied hok hwanted
  rw [List.getElem?_map, hnext] at hholds
  exact hholds.symm

/-- An output node of a kind that is found under a number stands there. -/
theorem getElem?_of_outputNode? {graph : StageGraph β} {kind : Kind β} {id : Nat}
    {node : OutputNode kind} (h : graph.outputNode? kind id = some node) :
    graph.nodes[id]? = some (.output kind node) := by
  unfold outputNode? at h
  split at h
  · rename_i found inner hfound
    split at h
    · rename_i hkind
      subst hkind
      obtain rfl := Option.some.inj h
      exact hfound
    · cases h
  · cases h

/-- A pending value is the first one of the stage in front of the output. -/
theorem pending?_eq_some {graph : StageGraph β} {kind : Kind β} {output : Output kind}
    {pending : Pending kind} (h : graph.pending? output = some pending) :
    graph.isComplete = true ∧ ∃ node slot, graph.nodes[output.id]? = some (.output kind node) ∧
      slot? kind graph.nodes node.source = some slot ∧ slot.values.head? = some pending.value := by
  unfold pending? at h
  split at h
  · rename_i hcomplete
    refine ⟨hcomplete, ?_⟩
    split at h
    · rename_i node hnode
      split at h
      · rename_i slot hslot
        split at h
        · cases h
        · obtain ⟨value, hvalue, rfl⟩ := Option.map_eq_some_iff.mp h
          exact ⟨node, slot, getElem?_of_outputNode? hnode, hslot, hvalue⟩
      · cases h
    · cases h
  · cases h

/-- The output hands out the value: it is pending there, or it is what is taken there. -/
def Shows {kind : Kind β} (graph : StageGraph β) (output : Output kind) (value : kind.Val) : Prop :=
  (∃ version, graph.pending? output = some ⟨version, value⟩) ∨
    (graph.take output).2 = some value

/-- What is taken is what is pending. -/
theorem Shows.exists_pending {graph : StageGraph β} {kind : Kind β} {output : Output kind}
    {value : kind.Val} (h : graph.Shows output value) :
    ∃ version, graph.pending? output = some ⟨version, value⟩ := by
  rcases h with hpending | htaken
  · exact hpending
  · rcases graph.take_cases output with ⟨pending, hpending, heq⟩ | ⟨_, heq⟩
    · rw [heq] at htaken
      obtain rfl := Option.some.inj htaken
      exact ⟨pending.version, hpending⟩
    · rw [heq] at htaken
      cases htaken

end StageGraph

/-- The value that an output hands out when all stages are evaluated from scratch: the first one of
the stage in front of it. -/
def HandsOut {kind : Kind β} (supply : Supply β) (stages : List (Stage β)) (output : Output kind)
    (value : kind.Val) : Prop :=
  ∃ input values, stages[output.id]? = some (.output kind input) ∧
    Denotes supply stages input kind values ∧ values.head? = some value

/-- Right behind a source an output hands out from scratch what has been supplied there. -/
theorem handsOut_source_iff {kind : Kind β} {supply : Supply β} {stages : List (Stage β)}
    {output : Output kind} {input : Nat} (houtput : stages[output.id]? = some (.output kind input))
    (hsource : stages[input]? = some (.source kind)) (value : kind.Val) :
    HandsOut supply stages output value ↔ (supply input kind).head? = some value := by
  have hdenotes : Denotes supply stages input kind (supply input kind) := .of_source hsource
  constructor
  · rintro ⟨found, values, hfound, hvalues, hhead⟩
    rw [houtput] at hfound
    cases hfound
    have hsame := hdenotes.symm.trans hvalues
    cases hsame
    exact hhead
  · intro hhead
    exact ⟨input, _, houtput, hdenotes, hhead⟩

/-! ## Histories whose last run was complete -/

namespace Session

variable {session next : Session β}

/-- The session has a history whose last run was complete, and the sources were supplied with these
values when it began. -/
inductive LastRun (supply : Supply β) : Session β → Prop where
  /-- A complete run has just ended. -/
  | run {session : Session β} {signal : Signal} {summary : Summary} (h : session.Reachable)
    (hok : (session.graph.run signal).2.2 = .ok summary) (hsupply : session.supplied = supply) :
    LastRun supply (session.afterRun signal)
  /-- Nothing has been run since. -/
  | pause {session next : Session β} (h : LastRun supply session) (hpause : session.Pause next) :
    LastRun supply next

/-- A history whose last run was complete is one that a host can have. -/
theorem LastRun.reachable {supply : Supply β} (h : session.LastRun supply) :
    session.Reachable := by
  induction h with
  | run h hok hsupply => exact h.step (.run _)
  | pause _ hpause ih => exact ih.step hpause.step

/-- Operations between runs go on with the same last run. -/
theorem LastRun.pauses {supply : Supply β} {later : Session β} (h : session.LastRun supply)
    (hpauses : Relation.ReflTransGen Pause session later) : later.LastRun supply := by
  induction hpauses with
  | refl => exact h
  | tail _ hpause ih => exact ih.pause hpause

/-- Nothing but what an output depends on has ever been evaluated. -/
theorem Reachable.sparesUnwanted (h : session.Reachable) : session.graph.SparesUnwanted := by
  induction h with
  | empty =>
    intro id node hnode
    cases hnode
  | step _ hstep ih =>
    rcases hstep.pause_or_run with ⟨_, hrests⟩ | ⟨signal, rfl⟩
    · exact ih.rests hrests
    · exact ih.run signal

/-- A graph that counts as complete has a history whose last run was complete. -/
theorem Reachable.exists_lastRun (h : session.Reachable)
    (hcomplete : session.graph.isComplete = true) : ∃ supply, session.LastRun supply := by
  induction h with
  | empty => cases hcomplete
  | @step before after h hstep ih =>
    rcases hstep.pause_or_run with ⟨hpause, hrests⟩ | ⟨signal, rfl⟩
    · rw [hrests.isComplete_eq] at hcomplete
      obtain ⟨supply, hlast⟩ := ih hcomplete
      exact ⟨supply, hlast.pause hpause⟩
    · have hended : (before.graph.run signal).2.2.isOk = true := hcomplete
      cases hok : (before.graph.run signal).2.2 with
      | ok summary => exact ⟨before.supplied, .run h hok rfl⟩
      | error error =>
        rw [hok] at hended
        cases hended

/-- What the last complete run has left is still there. -/
theorem LastRun.holdsRun (hfaithful : (Admission.all : Admission β).IsFaithful)
    {supply : Supply β} (h : session.LastRun supply) : session.graph.HoldsRun supply := by
  induction h with
  | run h hok hsupply =>
    have hsound := h.sound hfaithful
    rw [← hsupply]
    exact h.sparesUnwanted.holdsRun hsound.settled hfaithful hsound.supplied hok
  | pause _ hpause ih => exact ih.rests hpause.rests

/-- What an output shows, by the stage that it reads: behind a stage that is evaluated at all, the
value from scratch for a supply; right behind a source, the value that has been supplied last, which
is the one from scratch exactly when the supply has it too. -/
structure ShowsRun {kind : Kind β} (session : Session β) (supply : Supply β)
    (output : Output kind) (input : Nat) (value : kind.Val) : Prop where
  /-- The output reads the stage. -/
  place : session.graph.stages[output.id]? = some (.output kind input)
  /-- Behind anything but a source. -/
  derived : session.graph.stages[input]? ≠ some (.source kind) →
    HandsOut supply session.graph.stages output value
  /-- Right behind a source. -/
  direct : session.graph.stages[input]? = some (.source kind) →
    (session.supplied input kind).head? = some value ∧
      (HandsOut supply session.graph.stages output value ↔
        (supply input kind).head? = some value)

/-- Between runs every output shows what the last complete run has left, or what a source has been
supplied with. -/
theorem LastRun.exists_showsRun (hfaithful : (Admission.all : Admission β).IsFaithful)
    {supply : Supply β} (h : session.LastRun supply) {kind : Kind β} {output : Output kind}
    {value : kind.Val} (hshows : session.graph.Shows output value) :
    ∃ input, session.ShowsRun supply output input value := by
  obtain ⟨version, hpending⟩ := hshows.exists_pending
  obtain ⟨_, node, slot, hnode, hslot, hhead⟩ := StageGraph.pending?_eq_some hpending
  have hplace : session.graph.stages[output.id]? = some (.output kind node.source) := by
    rw [StageGraph.stages, List.getElem?_map, hnode]
    rfl
  obtain ⟨found, hfound, hheld⟩ := slot?_eq_some.mp hslot
  have hstage : session.graph.stages[node.source]? = some found.stage := by
    rw [StageGraph.stages, List.getElem?_map, hfound]
    rfl
  refine ⟨node.source, hplace, fun hderived => ?_, fun hsource => ?_⟩
  · -- a stage that holds a value and is no source is evaluated, and what it holds is from the run
    have hcomputing : found.stage.isComputing = true := by
      cases found with
      | source other inner =>
        cases hheld
        exact absurd hstage hderived
      | output other inner => cases hheld
      | map domain codomain inner => rfl
      | combine left right inner => rfl
      | collect other inner => rfl
    rcases h.holdsRun hfaithful node.source found hfound hcomputing with hblank | hscratch
    · rw [hblank.values_eq_nil hcomputing hheld] at hhead
      cases hhead
    · rw [Node.batch?, hheld] at hscratch
      exact ⟨node.source, slot.values, hplace, hscratch, hhead⟩
  · refine ⟨?_, handsOut_source_iff hplace hsource value⟩
    rw [hstage] at hsource
    cases found with
    | source other inner =>
      cases hheld
      rw [← (h.reachable.sound hfaithful).supplied node.source kind inner hfound]
      exact hhead
    | output other inner => cases hheld
    | map domain codomain inner => cases hsource
    | combine left right inner => cases hsource
    | collect other inner => cases hsource

/-- Where equality is told by its test, outputs show nothing before the first complete run and
behind a cancelled one. From a complete run to the next run, whatever the host does meanwhile, every
output behind anything but a source shows the value from scratch for what the sources were supplied
with when that run began. Right behind a source an output shows what has been supplied last, which
is the value from scratch exactly when the source was supplied with it at that run. -/
theorem Reachable.shows_lastRun
    (hequal : ∀ (b : β) (one other : Payload.Carrier b),
      Payload.beq b one other = true ↔ one = other)
    (h : session.Reachable) :
    ((∃ (kind : Kind β) (output : Output kind) (value : kind.Val),
        session.graph.Shows output value) → ∃ supply, session.LastRun supply) ∧
      ∀ supply, session.LastRun supply → ∀ later, Relation.ReflTransGen Pause session later →
        ∀ (kind : Kind β) (output : Output kind) (value : kind.Val),
          later.graph.Shows output value → ∃ input, later.ShowsRun supply output input value := by
  have hfaithful : (Admission.all : Admission β).IsFaithful :=
    fun b one other _ _ hbeq => (hequal b one other).mp hbeq
  refine ⟨?_, fun supply hlast later hpauses kind output value hshows => ?_⟩
  · rintro ⟨kind, output, value, hshows⟩
    obtain ⟨version, hpending⟩ := hshows.exists_pending
    exact h.exists_lastRun (StageGraph.pending?_eq_some hpending).1
  · exact (hlast.pauses hpauses).exists_showsRun hfaithful hshows

/-! ## A number that is handed out beside its successor -/

/-- The output right behind the source. -/
def direct : Output Plain.numbers := ⟨1⟩

/-- The output behind the stage that increases. -/
def behind : Output Plain.numbers := ⟨3⟩

/-- A source of one number, which is handed out as it is and increased. -/
def beside : Session Plain :=
  let session := ({} : Session Plain).addSingleSource Plain.numbers (1 : Nat)
  let session := { session with singles := ⟨Plain.numbers, ⟨0⟩⟩ :: session.singles }
  let session := session.addOutput (StageGraph.output (⟨0⟩ : Single Plain.numbers))
  let session := session.addSingle
    (StageGraph.mapSingle Plain.numbers (⟨0⟩ : Single Plain.numbers) Plain.increase)
  session.addOutput (StageGraph.output (⟨2⟩ : Single Plain.numbers))

/-- The session behind its first run, with another number supplied. -/
def besideSupplied : Session Plain :=
  { beside.afterRun .quiet with
    graph := ((beside.afterRun .quiet).graph.setSingle
      (⟨0⟩ : SingleSource Plain.numbers) (2 : Nat)).1
    supplied := beside.supplied.set 0 Plain.numbers [(2 : Nat)] }

/-- The session is one that a host can reach. -/
theorem beside_reachable : beside.Reachable := by
  have hempty : ({} : Session Plain).Reachable := .empty
  have hsource := hempty.step (.singleSource Plain.numbers (1 : Nat))
  have hvalue := hsource.step (.sourceValue List.mem_cons_self)
  have hdirect := hvalue.step (.output List.mem_cons_self)
  have hmap := hdirect.step (.mapSingle Plain.numbers List.mem_cons_self Plain.increase)
  exact hmap.step (.output List.mem_cons_self)

/-- The first run of the session is complete. -/
theorem beside_lastRun : (beside.afterRun .quiet).LastRun beside.supplied := by
  have hok : (beside.graph.run .quiet).2.2 = .ok ⟨1, 1⟩ := rfl
  exact .run beside_reachable hok rfl

/-- Another number is supplied between two runs. -/
theorem beside_pause : (beside.afterRun .quiet).Pause besideSupplied := by
  have hsource : ⟨Plain.numbers, ⟨0⟩⟩ ∈ (beside.afterRun .quiet).singleSources :=
    List.mem_cons_self
  exact .setSingle hsource (2 : Nat)

/-- Behind its first run the session with another number shows the successor of the number before,
and the other number beside it. -/
theorem beside_shows :
    (∀ (b : Plain) (one other : Payload.Carrier b),
      Payload.beq b one other = true ↔ one = other) ∧
    (beside.afterRun .quiet).Reachable ∧
    (beside.afterRun .quiet).LastRun beside.supplied ∧
    Relation.ReflTransGen Pause (beside.afterRun .quiet) besideSupplied ∧
    (besideSupplied.graph.Shows behind (2 : Nat) ∧
      HandsOut beside.supplied besideSupplied.graph.stages behind (2 : Nat)) ∧
    besideSupplied.graph.Shows direct (2 : Nat) ∧
      besideSupplied.ShowsRun beside.supplied direct 0 (2 : Nat) := by
  have hreachable := beside_lastRun.reachable
  have hpauses : Relation.ReflTransGen Pause (beside.afterRun .quiet) besideSupplied :=
    .single beside_pause
  obtain ⟨_, hshows⟩ := hreachable.shows_lastRun Plain.beq_eq_true_iff
  have hafter := hshows beside.supplied beside_lastRun besideSupplied hpauses Plain.numbers
  have hbehind : besideSupplied.graph.Shows behind (2 : Nat) := .inr rfl
  have hdirect : besideSupplied.graph.Shows direct (2 : Nat) := .inr rfl
  refine ⟨Plain.beq_eq_true_iff, hreachable, beside_lastRun, hpauses, ⟨hbehind, ?_⟩, hdirect, ?_⟩
  · obtain ⟨input, hrun⟩ := hafter behind _ hbehind
    refine hrun.derived fun hsource => ?_
    cases hrun.place
    cases hsource
  · obtain ⟨input, hrun⟩ := hafter direct _ hdirect
    cases hrun.place
    exact hrun

/-- A number that is supplied between two runs is shown beside the successor of the number before,
although no numbers supplied at a run give both. -/
theorem beside_disagrees :
    (beside.afterRun .quiet).LastRun beside.supplied ∧
    (beside.afterRun .quiet).Pause besideSupplied ∧
    besideSupplied.graph.Shows direct (2 : Nat) ∧
    ¬HandsOut beside.supplied besideSupplied.graph.stages direct (2 : Nat) ∧
    besideSupplied.graph.Shows behind (2 : Nat) ∧
    ¬∃ supply, HandsOut supply besideSupplied.graph.stages direct (2 : Nat) ∧
      HandsOut supply besideSupplied.graph.stages behind (2 : Nat) := by
  have hdirect : ∀ supply : Supply Plain,
      HandsOut supply besideSupplied.graph.stages direct (2 : Nat) ↔
        (supply 0 Plain.numbers).head? = some (2 : Nat) :=
    fun supply => handsOut_source_iff rfl rfl _
  refine ⟨beside_lastRun, beside_pause, .inr rfl, fun hgiven => ?_, .inr rfl, ?_⟩
  · have hhead : some (1 : Nat) = some 2 := (hdirect _).mp hgiven
    cases hhead
  · rintro ⟨supply, hgiven, input, values, hplace, hvalues, hhead⟩
    cases hplace
    have hscratch : Denotes supply besideSupplied.graph.stages 2 Plain.numbers
        ((supply 0 Plain.numbers).flatMap fun number => [Plain.increase number]) := rfl
    cases hvalues.symm.trans hscratch
    have hhead' := (hdirect supply).mp hgiven
    cases hsupply : supply 0 Plain.numbers with
    | nil =>
      rw [hsupply] at hhead'
      cases hhead'
    | cons number rest =>
      rw [hsupply] at hhead hhead'
      cases hhead'
      cases hhead

end Session

end TemplateCodegen.Incremental
