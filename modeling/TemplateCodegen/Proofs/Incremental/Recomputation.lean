import Mathlib.Logic.Relation
import TemplateCodegen.Proofs.Incremental.Economy

/-!
# Recomputation is as small as promised

What a complete run does, node by node, and what is left to do while the host adds no stage and
changes no source. Main statement: behind every history a complete run evaluates exactly the due
stages, and behind it nothing is to do until the host gives cause
(`Session.History.recomputes_exactly`).
-/

namespace TemplateCodegen.Incremental

variable {β : Type} [Payload β] [DecidableEq β]

/-! ## Evaluations in a run -/

/-- A complete run has evaluated every marked node against the nodes that are then in front of it.
-/
theorem advance_evaluate (front : List (Node β)) (summary : Summary)
    (rest : List (Node β × Bool)) (signal : Signal) {done : Summary}
    (hok : (advance front summary rest signal).outcome = .ok done) {index : Nat} {node : Node β}
    (hentry : rest[index]? = some (node, true)) :
    ∃ next changed start finish,
      node.evaluate ((advance front summary rest signal).nodes.take (front.length + index)) start =
        .ok (next, changed) finish ∧
      (advance front summary rest signal).nodes[front.length + index]? = some next := by
  induction rest generalizing front summary signal index with
  | nil => simp at hentry
  | cons entry rest ih =>
    obtain ⟨first, mark⟩ := entry
    have hlater : ∀ (next : Node β) (place : Nat),
        front.length + (place + 1) = (front ++ [next]).length + place :=
      fun next place => by simp only [List.length_append, List.length_cons, List.length_nil]; omega
    cases mark with
    | false =>
      cases index with
      | zero => simp at hentry
      | succ index =>
        rw [hlater first index]
        exact ih (front ++ [first]) summary signal hok hentry
    | true =>
      unfold advance at hok ⊢
      split at hok
      · rename_i next changed signal' hnext
        obtain ⟨_, between, _, hevaluate⟩ := Run.bind_eq_ok hnext
        cases index with
        | zero =>
          obtain rfl : first = node := by simpa using hentry
          obtain ⟨behind, hnodes, _⟩ := advance_summary _ _ rest _ hok
          refine ⟨next, changed, between, signal', ?_, ?_⟩
          · rw [hnodes]
            simpa using hevaluate
          · rw [hnodes]
            simp
        | succ index =>
          rw [hlater next index]
          exact ih (front ++ [next]) _ signal' hok hentry
      · cases hok

/-- Refreshing a node looks at nothing but the slots in front of it. -/
theorem Node.refresh_congr {node : Node β} {front front' : List (Node β)}
    (hslots : ∀ (kind : Kind β) (id : Nat), slot? kind front id = slot? kind front' id) :
    node.refresh front = node.refresh front' := by
  cases node with
  | source kind inner => rfl
  | output kind inner => rfl
  | map domain codomain inner => simp only [Node.refresh, MapNode.refresh, hslots]
  | combine left right inner => simp only [Node.refresh, CombineNode.refresh, hslots]
  | collect kind inner => simp only [Node.refresh, CollectNode.evaluate, hslots]

namespace StageGraph

/-- A complete run has evaluated every node that is asked for against the nodes that are then in
front of it. -/
theorem run_ok_evaluate {graph : StageGraph β} {signal : Signal} {summary : Summary}
    (hok : (graph.run signal).2.2 = .ok summary) {id : Nat} {node : Node β}
    (hnode : graph.nodes[id]? = some node) (hmark : (demanded graph.nodes)[id]? = some true) :
    ∃ next changed start finish,
      node.evaluate ((graph.run signal).1.nodes.take id) start = .ok (next, changed) finish ∧
        (graph.run signal).1.nodes[id]? = some next := by
  have hentry : graph.agenda[id]? = some (node, true) :=
    List.getElem?_zip_eq_some.mpr ⟨hnode, hmark⟩
  have h := advance_evaluate [] {} graph.agenda signal hok hentry
  rwa [List.length_nil, Nat.zero_add] at h

/-! ## Graphs with nothing to do -/

/-- Every node that an output depends on is up to date with the nodes in front of it. -/
def IsCurrent (graph : StageGraph β) : Prop :=
  ∀ (id : Nat) (node : Node β), graph.nodes[id]? = some node → Wanted graph.stages id →
    (node.refresh (graph.nodes.take id)).1 = node

/-- A complete run leaves nothing to do. -/
theorem isCurrent_run {graph : StageGraph β} {signal : Signal} {summary : Summary}
    (hok : (graph.run signal).2.2 = .ok summary) (hlinked : IsLinked graph.stages) :
    (graph.run signal).1.IsCurrent := by
  intro id next hnext hwanted
  rw [graph.stages_run signal] at hwanted
  have hlt : id < graph.nodes.length := by
    have hplace := (List.getElem?_eq_some_iff.mp hnext).1
    rwa [graph.length_run signal] at hplace
  obtain ⟨node, _, hrefreshed⟩ := exists_refresh_of_wanted hok hlinked hwanted hlt
  obtain rfl := Option.some.inj (hnext.symm.trans hrefreshed)
  exact node.refresh_refresh _

/-- Where nothing is to do no run does anything, complete or cancelled. -/
theorem IsCurrent.nodes_run {graph : StageGraph β} (h : graph.IsCurrent) (signal : Signal) :
    (graph.run signal).1.nodes = graph.nodes := by
  have hsize := graph.length_run signal
  refine List.ext_getElem? fun id => ?_
  -- By induction on the place: the nodes in front are the same.
  induction id using Nat.strongRecOn with
  | ind id ih =>
    cases hnode : graph.nodes[id]? with
    | none =>
      rw [List.getElem?_eq_none_iff] at hnode ⊢
      omega
    | some node =>
      rcases graph.run_getElem? signal hnode with hsame | ⟨hmark, hrefreshed⟩
      · exact hsame
      · have hfront : (graph.run signal).1.nodes.take id = graph.nodes.take id := by
          refine List.ext_getElem? fun place => ?_
          by_cases hplace : place < id
          · rw [List.getElem?_take_of_lt hplace, List.getElem?_take_of_lt hplace, ih place hplace]
          · rw [List.getElem?_take_eq_none (by omega), List.getElem?_take_eq_none (by omega)]
        rw [hrefreshed, hfront, h id node hnode (wanted_of_demandedAfter hmark)]

/-- Nothing is to do where the same nodes have nothing to do. -/
theorem IsCurrent.of_nodes {graph after : StageGraph β} (h : graph.IsCurrent)
    (hnodes : after.nodes = graph.nodes) : after.IsCurrent := by
  intro id node hnode hwanted
  rw [stages, hnodes] at hwanted
  rw [hnodes] at hnode ⊢
  exact h id node hnode hwanted

/-- A commit leaves nothing to do where nothing is. -/
theorem IsCurrent.commit {graph : StageGraph β} (h : graph.IsCurrent) {kind : Kind β}
    (output : Output kind) (pending : Pending kind) : (graph.commit output pending).IsCurrent := by
  intro id node hnode hwanted
  have hslots : ∀ (found : Kind β) (place : Nat),
      slot? found ((graph.commit output pending).nodes.take id) place =
        slot? found (graph.nodes.take id) place := by
    intro found place
    have hcommit := graph.slot?_commit output pending found place
    unfold slot? at hcommit ⊢
    by_cases hplace : place < id
    · rwa [List.getElem?_take_of_lt hplace, List.getElem?_take_of_lt hplace]
    · rw [List.getElem?_take_eq_none (by omega), List.getElem?_take_eq_none (by omega)]
  rw [Node.refresh_congr hslots]
  rw [graph.stages_commit output pending] at hwanted
  rcases graph.commit_cases output pending with ⟨inner, hinner, heq⟩ | ⟨_, heq⟩
  · rw [heq] at hnode
    by_cases hplace : output.id = id
    · obtain ⟨hlt, _⟩ := List.getElem?_eq_some_iff.mp hinner
      subst hplace
      rw [List.getElem?_set_self hlt] at hnode
      obtain rfl := Option.some.inj hnode
      rfl
    · rw [List.getElem?_set_ne hplace] at hnode
      exact h id node hnode hwanted
  · rw [heq] at hnode
    exact h id node hnode hwanted

/-- Values that are reported as no change leave the graph. -/
theorem setValues_of_not_changed {graph : StageGraph β} {kind : Kind β} {id : Nat}
    {values : List kind.Val} (h : (graph.setValues kind id values).2 = false) :
    (graph.setValues kind id values).1 = graph := by
  refine setValues_of_beq fun inner hinner => ?_
  rcases graph.setValues_cases kind id values with ⟨found, hfound, heq⟩ | ⟨hnone, _⟩
  · have hsame := hinner.symm.trans hfound
    cases hsame
    rw [heq] at h
    have hreport : (inner.slot.update values).2 = false := h
    unfold Slot.update at hreport
    split at hreport
    · assumption
    · cases hreport
  · exact absurd hinner (hnone inner)

end StageGraph

namespace Session

/-- One operation of the host that adds no stage and changes no source: it leaves the graph,
supplies values that are reported as no change, runs the graph, or works at an output. -/
inductive Idle (session : Session β) : Session β → Prop where
  | stay {next : Session β} (h : session.Step next) (hgraph : next.graph = session.graph) :
    Idle session next
  | setSource {kind : Kind β} {source : Source kind} (h : ⟨kind, source⟩ ∈ session.sources)
    {values : List kind.Val} (hkept : (session.graph.setSource source values).2 = false) :
    Idle session { session with
      graph := (session.graph.setSource source values).1
      supplied := session.supplied.set source.id kind values }
  | setSingle {kind : Kind β} {source : SingleSource kind}
    (h : ⟨kind, source⟩ ∈ session.singleSources) {value : kind.Val}
    (hkept : (session.graph.setSingle source value).2 = false) :
    Idle session { session with
      graph := (session.graph.setSingle source value).1
      supplied := session.supplied.set source.id kind [value] }
  | setParallel (isParallel : Bool) :
    Idle session { session with graph := session.graph.setParallel isParallel }
  | run (signal : Signal) :
    Idle session { session with graph := (session.graph.run signal).1 }
  | take {kind : Kind β} {output : Output kind} (h : ⟨kind, output⟩ ∈ session.outputs) :
    Idle session { session with graph := (session.graph.take output).1 }
  | commit {kind : Kind β} {output : Output kind} (h : ⟨kind, output⟩ ∈ session.outputs)
    (pending : Pending kind) :
    Idle session { session with graph := session.graph.commit output pending }

/-- Where nothing is to do such an operation leaves nothing to do. -/
theorem Idle.isCurrent {session next : Session β} (hidle : session.Idle next)
    (h : session.graph.IsCurrent) : next.graph.IsCurrent := by
  cases hidle with
  | stay _ hgraph =>
    rw [hgraph]
    exact h
  | setSource _ hkept =>
    have hsame := StageGraph.setValues_of_not_changed hkept
    exact h.of_nodes (congrArg StageGraph.nodes hsame)
  | setSingle _ hkept =>
    have hsame := StageGraph.setValues_of_not_changed hkept
    exact h.of_nodes (congrArg StageGraph.nodes hsame)
  | setParallel isParallel => exact h.of_nodes rfl
  | run signal => exact h.of_nodes (h.nodes_run signal)
  | @take kind output _ =>
    rcases session.graph.take_cases output with ⟨pending, _, heq⟩ | ⟨_, heq⟩
    · rw [heq]
      exact h.commit output pending
    · rw [heq]
      exact h
  | commit _ pending => exact h.commit _ pending

/-- While the host idles there is nothing to do, if there was nothing before. -/
theorem isCurrent_of_idle {session later : Session β}
    (hidle : Relation.ReflTransGen Idle session later) (h : session.graph.IsCurrent) :
    later.graph.IsCurrent := by
  induction hidle with
  | refl => exact h
  | tail _ hstep ih => exact hstep.isCurrent ih

end Session

/-! ## What a complete run does -/

/-- The elements that the input of a node held where the node was evaluated last; none, when it has
never been evaluated. -/
def Session.knownElements (domain : Kind β) (history : List (Session β)) (id input : Nat) :
    List domain.Val :=
  ((lastEvaluated? id history).bind fun found => found.peek? (⟨input⟩ : Values domain)).getD []

/-- The elements that a node remembers are those that its input held where it was evaluated last. -/
theorem MapNode.Recalls.known_eq {domain codomain : Kind β} {node : MapNode domain codomain}
    {history : List (Session β)} {id : Nat}
    (h : node.Recalls (Session.lastEvaluated? id history)) :
    node.known = Session.knownElements domain history id node.source := by
  unfold Session.knownElements
  cases hlast : Session.lastEvaluated? id history with
  | none =>
    rw [hlast] at h
    rw [known, h.2]
    rfl
  | some found =>
    rw [hlast] at h
    obtain ⟨source, hsource, _, helements⟩ := h
    rw [known, helements, Option.bind_some, StageGraph.peek?, hsource]
    rfl

/-- The evaluation of an application of a function to every element: it goes through the elements of
the input once, with the function applied to those that are not known, and leaves another node. -/
structure MapNode.IsApplied {domain codomain : Kind β} (node next : MapNode domain codomain)
    (front : List (Node β)) (known : List domain.Val) (source : Slot domain.Val) : Prop where
  /-- The input. -/
  input : slot? domain front node.source = some source
  /-- The computation, with every call of the function. -/
  evaluate : node.evaluate front = do
    let results ← source.values.mapM (node.fn.resultBeyond known)
    pure (node.commit source results)
  /-- The computation has been gone through and has left the other node. -/
  ended : ∃ changed start finish, node.evaluate front start = .ok (next, changed) finish
  /-- As many calls are counted as there are elements that are not known. -/
  computations : next.stats.computations = node.stats.computations +
    source.values.countP fun element => !known.contains element

/-- An evaluation that is counted applies the function to the elements that the node does not
remember. -/
theorem MapNode.exists_isApplied {domain codomain : Kind β} [LawfulBEq domain.Val]
    {node next : MapNode domain codomain} {front : List (Node β)} {changed : Bool}
    {start finish : Signal} (hmemo : ∀ entry ∈ node.memo, entry.2 = node.fn.value entry.1)
    (hevaluations : (node.refresh front).1.stats.evaluations = node.stats.evaluations + 1)
    (hevaluate : node.evaluate front start = .ok (next, changed) finish) :
    ∃ source, node.IsApplied next front node.known source := by
  rcases node.refresh_cases front with ⟨_, heq⟩ | ⟨source, hsource, ⟨_, heq⟩ | ⟨hnew, heq⟩⟩
  · rw [heq] at hevaluations
    exact absurd hevaluations (Nat.succ_ne_self _).symm
  · rw [heq] at hevaluations
    exact absurd hevaluations (Nat.succ_ne_self _).symm
  · have hnext : next = (node.commit source (node.resultsFrom 0 source.values)).1 := by
      rw [← heq, ← MapNode.evaluate_ok hevaluate]
    refine ⟨source, hsource, ?_, ⟨changed, start, finish, hevaluate⟩, ?_⟩
    · rw [← results_eq hmemo 0]
      simp only [MapNode.evaluate, hsource, if_neg hnew]
    · rw [hnext, ← countP_resultsFrom 0]
      exact Stats.computations_countEvaluation ..

/-- A complete run does what is due and nothing else. -/
structure IsEconomical (history : List (Session β)) (before after : StageGraph β)
    (summary : Summary) : Prop where
  /-- A due stage is evaluated once. -/
  evaluated : ∀ id, after.IsDue history id →
    (after.stats id).evaluations = (before.stats id).evaluations + 1
  /-- Any other node is left as it is. -/
  spared : ∀ id, ¬after.IsDue history id → after.nodes[id]? = before.nodes[id]?
  /-- A due application of a function applies it to the elements that its input did not hold when it
  was evaluated last, each time they stand there. -/
  applied : ∀ (id : Nat) (domain codomain : Kind β) (node : MapNode domain codomain),
    before.nodes[id]? = some (.map domain codomain node) → after.IsDue history id →
      ∃ next source, after.nodes[id]? = some (.map domain codomain next) ∧
        node.IsApplied next (after.nodes.take id)
          (Session.knownElements domain history id node.source) source
  /-- A stage keeps its version exactly when it keeps its values. -/
  version_iff : ∀ id, after.version? id = before.version? id ↔ after.batch? id = before.batch? id
  /-- A stage that was not stale in front of the run is not due while its inputs keep their values.
  -/
  cut : ∀ id stage, before.stages[id]? = some stage →
    ¬stage.IsStale (Session.lastEvaluated? id history) before →
      (∀ input ∈ stage.inputs, after.batch? input = before.batch? input) →
        ¬after.IsDue history id
  /-- The summary counts what has been evaluated and what has changed. -/
  counted : summary = Summary.between before.nodes after.nodes

/-- A refreshed node keeps its version exactly when it keeps its values. -/
theorem Node.version?_refresh_iff
    (hself : ∀ (b : β) (value : Payload.Carrier b), Payload.beq b value value) (node : Node β)
    (front : List (Node β)) :
    (node.refresh front).1.version? = node.version? ↔
      (node.refresh front).1.batch? = node.batch? := by
  cases hheld : node.held? with
  | none =>
    have hcomputing : node.stage.isComputing = false := by
      cases node with
      | output kind inner => rfl
      | source kind inner => rfl
      | map domain codomain inner => cases hheld
      | combine left right inner => cases hheld
      | collect kind inner => cases hheld
    rw [Node.refresh_of_isComputing hcomputing]
    exact iff_of_true rfl rfl
  | some held =>
    obtain ⟨kind, slot⟩ := held
    obtain ⟨slot', hheld', hturns⟩ := Node.turns_refresh hheld front
    simp only [version?, batch?, hheld, hheld', Option.map_some, Option.some.injEq,
      Batch.mk.injEq, heq_eq_eq, true_and]
    constructor
    · intro hversion
      rcases hturns with rfl | ⟨hlt, _⟩
      · rfl
      · omega
    · intro hvalues
      rw [hturns.eq_of_values (Kind.beq_self_values hself slot.values) hvalues]

/-- Behind any run a stage keeps its version exactly when it keeps its values. -/
theorem StageGraph.version?_run_iff
    (hself : ∀ (b : β) (value : Payload.Carrier b), Payload.beq b value value)
    (graph : StageGraph β) (signal : Signal) (id : Nat) :
    (graph.run signal).1.version? id = graph.version? id ↔
      (graph.run signal).1.batch? id = graph.batch? id := by
  unfold version? batch?
  cases hnode : graph.nodes[id]? with
  | none =>
    have hsize := graph.length_run signal
    have hafter : (graph.run signal).1.nodes[id]? = none := by
      rw [List.getElem?_eq_none_iff] at hnode ⊢
      omega
    rw [hafter]
    exact iff_of_true rfl rfl
  | some node =>
    rcases graph.run_getElem? signal hnode with hsame | ⟨_, hrefreshed⟩
    · rw [hsame]
      exact iff_of_true rfl rfl
    · rw [hrefreshed]
      exact node.version?_refresh_iff hself _

namespace Session.History

variable {session : Session β} {past : List (Session β)}

/-- Behind every history a complete run evaluates a node once when it is due, and leaves it when it
is not. -/
theorem run_ok_cases (h : session.History past) (hlinked : IsLinked session.graph.stages)
    {signal : Signal} {summary : Summary} (hok : (session.graph.run signal).2.2 = .ok summary)
    {id : Nat} {node : Node β} (hnode : session.graph.nodes[id]? = some node) :
    ((session.graph.run signal).1.IsDue (session :: past) id ∧
        (demanded session.graph.nodes)[id]? = some true ∧
        (node.refresh ((session.graph.run signal).1.nodes.take id)).1.stats.evaluations =
          node.stats.evaluations + 1) ∨
      (¬(session.graph.run signal).1.IsDue (session :: past) id ∧
        (session.graph.run signal).1.nodes[id]? = some node) := by
  have hstages := session.graph.stages_run signal
  have hplace : (session.graph.run signal).1.stages[id]? = some node.stage := by
    rw [hstages, StageGraph.stages, List.getElem?_map, hnode, Option.map_some]
  obtain ⟨hlt, _⟩ := List.getElem?_eq_some_iff.mp hnode
  have hmarks : id < (demanded session.graph.nodes).length := by
    rw [demanded, length_demandedAfter]
    exact hlt
  have hmark := List.getElem?_eq_getElem hmarks
  have hafter := StageGraph.run_ok_getElem? hok hnode hmark
  cases hasked : (demanded session.graph.nodes)[id] with
  | false =>
    refine .inr ⟨fun hdue => ?_, by simpa [hasked] using hafter⟩
    have hwanted : Wanted session.graph.stages id := hstages ▸ hdue.wanted
    have hdemanded := demandedAfter_of_wanted hlinked hwanted (Nat.le_add_left _ id) hlt
    have hboth := hmark.symm.trans hdemanded
    rw [hasked] at hboth
    cases hboth
  | true =>
    rw [hasked] at hmark
    rw [hasked, if_pos rfl] at hafter
    have hwanted : Wanted (session.graph.run signal).1.stages id := by
      rw [hstages]
      exact wanted_of_demandedAfter hmark
    cases hcomputing : node.stage.isComputing with
    | false =>
      refine .inr ⟨fun hdue => ?_, by rw [hafter, Node.refresh_of_isComputing hcomputing]⟩
      obtain ⟨stage, hstage, hcomputes, _⟩ := hdue.stale
      obtain rfl := Option.some.inj (hplace.symm.trans hstage)
      rw [hcomputing] at hcomputes
      cases hcomputes
    | true =>
      have hfront := List.take_prefix id (session.graph.run signal).1.nodes
      rcases (h.recalls hnode).refresh_cases hcomputing
          (StageGraph.isLinked_run hlinked signal hnode) hfront with
        ⟨hstale, hevaluations⟩ | ⟨hfresh, hsame⟩
      · exact .inl ⟨⟨hwanted, node.stage, hplace, hcomputing, hstale⟩, hmark, hevaluations⟩
      · refine .inr ⟨fun hdue => ?_, by rw [hafter, hsame]⟩
        obtain ⟨stage, hstage, _, hstale⟩ := hdue.stale
        obtain rfl := Option.some.inj (hplace.symm.trans hstage)
        exact hfresh hstale

/-- Behind every history a complete run evaluates a due stage once. -/
theorem evaluations_of_isDue (h : session.History past) (hlinked : IsLinked session.graph.stages)
    {signal : Signal} {summary : Summary} (hok : (session.graph.run signal).2.2 = .ok summary)
    {id : Nat} (hdue : (session.graph.run signal).1.IsDue (session :: past) id) :
    ((session.graph.run signal).1.stats id).evaluations =
      (session.graph.stats id).evaluations + 1 := by
  obtain ⟨stage, hstage, _⟩ := hdue.stale
  have hlt := (List.getElem?_eq_some_iff.mp hstage).1
  rw [StageGraph.length_stages, session.graph.length_run signal] at hlt
  have hnode := List.getElem?_eq_getElem hlt
  rcases h.run_ok_cases hlinked hok hnode with ⟨_, hmark, hevaluations⟩ | ⟨hnot, _⟩
  · have hafter := StageGraph.run_ok_getElem? hok hnode hmark
    rw [StageGraph.stats_of_getElem? hnode, StageGraph.stats_of_getElem? hafter]
    exact hevaluations
  · exact absurd hdue hnot

/-- Behind every history a complete run leaves what is not due. -/
theorem getElem?_of_not_isDue (h : session.History past) (hlinked : IsLinked session.graph.stages)
    {signal : Signal} {summary : Summary} (hok : (session.graph.run signal).2.2 = .ok summary)
    {id : Nat} (hnot : ¬(session.graph.run signal).1.IsDue (session :: past) id) :
    (session.graph.run signal).1.nodes[id]? = session.graph.nodes[id]? := by
  cases hnode : session.graph.nodes[id]? with
  | none =>
    rw [List.getElem?_eq_none_iff] at hnode ⊢
    rwa [session.graph.length_run signal]
  | some node =>
    rcases h.run_ok_cases hlinked hok hnode with ⟨hdue, _⟩ | ⟨_, hsame⟩
    · exact absurd hdue hnot
    · exact hsame

/-- Behind every history the evaluation of a due application of a function applies it to exactly the
elements that were not there before. -/
theorem isApplied (h : session.History past)
    (hequal : ∀ (b : β) (one other : Payload.Carrier b),
      Payload.beq b one other = true ↔ one = other)
    {signal : Signal} {summary : Summary} (hok : (session.graph.run signal).2.2 = .ok summary)
    {id : Nat} {domain codomain : Kind β} {node : MapNode domain codomain}
    (hnode : session.graph.nodes[id]? = some (.map domain codomain node))
    (hdue : (session.graph.run signal).1.IsDue (session :: past) id) :
    ∃ next source, (session.graph.run signal).1.nodes[id]? = some (.map domain codomain next) ∧
      node.IsApplied next ((session.graph.run signal).1.nodes.take id)
        (Session.knownElements domain (session :: past) id node.source) source := by
  have hfaithful : (Admission.all : Admission β).IsFaithful :=
    fun b one other _ _ hbeq => (hequal b one other).mp hbeq
  have hsettled := (h.reachable.sound hfaithful).settled
  have hmemo : ∀ entry ∈ node.memo, entry.2 = node.fn.value entry.1 :=
    MapNode.IsSettled.memo_value (hsettled.node id _ hnode)
  have hlawful : LawfulBEq domain.Val := Kind.lawfulBEq hequal domain
  have hknown : node.known = Session.knownElements domain (session :: past) id node.source :=
    MapNode.Recalls.known_eq (h.recalls hnode)
  rcases h.run_ok_cases hsettled.linked hok hnode with ⟨_, hmark, hevaluations⟩ | ⟨hnot, _⟩
  · obtain ⟨result, _, start, finish, hresult, hafter⟩ :=
      StageGraph.run_ok_evaluate hok hnode hmark
    obtain ⟨⟨next, changed⟩, between, hevaluate, hpure⟩ := Run.bind_eq_ok hresult
    have hmapped : Node.map domain codomain next = result :=
      congrArg Prod.fst (Run.pure_eq_ok hpure).1
    obtain ⟨source, happlied⟩ := MapNode.exists_isApplied hmemo hevaluations hevaluate
    exact ⟨next, source, hmapped ▸ hafter, hknown ▸ happlied⟩
  · exact absurd hdue hnot

/-- Where equality is told by its test, recomputation is as small as promised behind every history.
A complete run evaluates exactly the due stages, each of them once, and leaves the other nodes as
they are; it applies a function to exactly those elements that its input did not hold at the last
evaluation; a stage whose values stand keeps its version and makes no other stage due; and the
summary counts what has been evaluated and what has changed. While the host adds no stage and
changes no source afterwards, further complete runs do nothing at all. -/
theorem recomputes_exactly (h : session.History past)
    (hequal : ∀ (b : β) (one other : Payload.Carrier b),
      Payload.beq b one other = true ↔ one = other)
    {signal : Signal} {summary : Summary} (hok : (session.graph.run signal).2.2 = .ok summary) :
    IsEconomical (session :: past) session.graph (session.graph.run signal).1 summary ∧
      ∀ later signal' summary',
        Relation.ReflTransGen Idle { session with graph := (session.graph.run signal).1 } later →
          (later.graph.run signal').2.2 = .ok summary' → summary' = ⟨0, 0⟩ := by
  have hfaithful : (Admission.all : Admission β).IsFaithful :=
    fun b one other _ _ hbeq => (hequal b one other).mp hbeq
  have hself : ∀ (b : β) (value : Payload.Carrier b), Payload.beq b value value :=
    fun b value => (hequal b value value).mpr rfl
  have hlinked := (h.reachable.sound hfaithful).settled.linked
  have hversion := session.graph.version?_run_iff hself signal
  have heconomical : IsEconomical (session :: past) session.graph (session.graph.run signal).1
      summary :=
    { evaluated := fun _ hdue => h.evaluations_of_isDue hlinked hok hdue
      spared := fun _ hnot => h.getElem?_of_not_isDue hlinked hok hnot
      applied := fun _ _ _ _ hnode hdue => h.isApplied hequal hok hnode hdue
      version_iff := hversion
      cut := fun id stage hstage hfresh hkept hdue => by
        obtain ⟨found, hfound, _, hstale⟩ := hdue.stale
        rw [session.graph.stages_run signal] at hfound
        obtain rfl := Option.some.inj (hstage.symm.trans hfound)
        refine hfresh fun last hlast => ?_
        obtain ⟨input, hinput, hother⟩ := hstale last hlast
        exact ⟨input, hinput, (hversion input).mpr (hkept input hinput) ▸ hother⟩
      counted := StageGraph.run_ok_summary hok }
  refine ⟨heconomical, fun later signal' summary' hidle hok' => ?_⟩
  have hcurrent := isCurrent_of_idle hidle (StageGraph.isCurrent_run hok hlinked)
  rw [StageGraph.run_ok_summary hok', hcurrent.nodes_run signal']
  exact Summary.between_self later.graph.nodes

end Session.History

/-! ## Numbers that are supplied again -/

namespace Session

/-- Of the three numbers one is increased anew, and behind the run the host idles while it takes the
gathered numbers. -/
theorem recounting_recomputes :
    (∀ (b : Plain) (one other : Payload.Carrier b),
      Payload.beq b one other = true ↔ one = other) ∧
    (recounting.graph.run .quiet).2.2 = .ok ⟨2, 2⟩ ∧
    ((recounting.graph.run .quiet).1.stats 1).computations =
      (recounting.graph.stats 1).computations + 1 ∧
    (∃ past, recounting.History past ∧
      IsEconomical (recounting :: past) recounting.graph (recounting.graph.run .quiet).1 ⟨2, 2⟩) ∧
    (((recounting.graph.run .quiet).1.take
      (⟨3⟩ : Output (.list Plain.numbers))).1.run .quiet).2.2.isOk = true ∧
    ∀ signal summary,
      (((recounting.graph.run .quiet).1.take
        (⟨3⟩ : Output (.list Plain.numbers))).1.run signal).2.2 = .ok summary →
          summary = ⟨0, 0⟩ := by
  have hok : (recounting.graph.run .quiet).2.2 = .ok ⟨2, 2⟩ := rfl
  obtain ⟨past, hpast⟩ := recounting_reachable.exists_history
  obtain ⟨heconomical, hidle⟩ := hpast.recomputes_exactly Plain.beq_eq_true_iff hok
  have htake : Idle { recounting with graph := (recounting.graph.run .quiet).1 }
      { recounting with
        graph := ((recounting.graph.run .quiet).1.take
          (⟨3⟩ : Output (.list Plain.numbers))).1 } := .take List.mem_cons_self
  exact ⟨Plain.beq_eq_true_iff, hok, rfl, ⟨past, hpast, heconomical⟩, rfl, fun signal summary =>
    hidle _ signal summary (.single htake)⟩

end Session

end TemplateCodegen.Incremental
