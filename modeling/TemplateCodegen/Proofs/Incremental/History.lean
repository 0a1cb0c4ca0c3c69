import TemplateCodegen.Proofs.Incremental.Session
import TemplateCodegen.Proofs.Incremental.Turnover

/-!
# Histories of a graph

A history is a session with all the sessions before it, one operation of the host apart. It tells
when a node was evaluated last and what its inputs held then, by the counters alone and without
looking at what the node remembers. Main statement: what a node remembers is what its inputs held
behind the operation that evaluated it last (`Session.History.recalls`).
-/

namespace TemplateCodegen.Incremental

variable {β : Type} [Payload β]

/-! ## Versions and counters -/

/-- The version of what a node holds. -/
def Node.version? (node : Node β) : Option Nat := node.held?.map fun held => held.slot.version

namespace StageGraph

/-- The version of what the node under a number holds. -/
def version? (graph : StageGraph β) (id : Nat) : Option Nat :=
  (graph.nodes[id]?).bind Node.version?

/-- The values that the node under a number holds. -/
def batch? (graph : StageGraph β) (id : Nat) : Option (Batch β) :=
  (graph.nodes[id]?).bind Node.batch?

/-- What a node that is there has done. -/
theorem stats_of_getElem? {graph : StageGraph β} {id : Nat} {node : Node β}
    (h : graph.nodes[id]? = some node) : graph.stats id = node.stats := by
  simp [stats, h]

/-- Behind the end nothing has been done. -/
theorem stats_of_length_le {graph : StageGraph β} {id : Nat} (h : graph.nodes.length ≤ id) :
    graph.stats id = {} := by
  simp [stats, List.getElem?_eq_none h]

/-- A slot that is read has the version of its node. -/
theorem version?_of_slot? [DecidableEq β] {graph : StageGraph β} {kind : Kind β} {id : Nat}
    {slot : Slot kind.Val} (h : slot? kind graph.nodes id = some slot) :
    graph.version? id = some slot.version := by
  obtain ⟨node, hnode, hheld⟩ := slot?_eq_some.mp h
  simp [version?, Node.version?, hnode, hheld]

end StageGraph

/-! ## What a node remembers -/

/-- Whether the stage is evaluated at all: sources and outputs are not. -/
def Stage.isComputing : Stage β → Bool
  | .source _ | .output _ _ => false
  | .map _ _ _ _ | .combine _ _ _ _ | .collect _ _ => true

variable [DecidableEq β]

/-- The node remembers the version and the elements that its input has in a graph; nothing, when
there is no such graph. -/
def MapNode.Recalls {domain codomain : Kind β} (node : MapNode domain codomain) :
    Option (StageGraph β) → Prop
  | none => node.seen = none ∧ node.memo = []
  | some graph => ∃ source, slot? domain graph.nodes node.source = some source ∧
      node.seen = some source.version ∧ node.memo.map Prod.fst = source.values

/-- The node remembers the versions that its inputs have in a graph; none, when there is no such
graph. -/
def CombineNode.Recalls {left right : Kind β} (node : CombineNode left right) :
    Option (StageGraph β) → Prop
  | none => node.seen = none
  | some graph => ∃ lefts rights, slot? left graph.nodes node.leftSource = some lefts ∧
      slot? right graph.nodes node.rightSource = some rights ∧
        node.seen = some (lefts.version, rights.version)

/-- The node remembers the version that its input has in a graph; none, when there is no such graph.
-/
def CollectNode.Recalls {kind : Kind β} (node : CollectNode kind) : Option (StageGraph β) → Prop
  | none => node.seen = none
  | some graph => ∃ source, slot? kind graph.nodes node.source = some source ∧
      node.seen = some source.version

/-- What the node remembers is what its inputs hold in a graph, if there is one. -/
def Node.Recalls (node : Node β) (last : Option (StageGraph β)) : Prop :=
  match node with
  | .map _ _ inner => inner.Recalls last
  | .combine _ _ inner => inner.Recalls last
  | .collect _ inner => inner.Recalls last
  | .source _ _ | .output _ _ => True

/-- A node that is never evaluated has nothing to remember. -/
theorem Node.recalls_of_isComputing {node : Node β} (h : node.stage.isComputing = false)
    (last : Option (StageGraph β)) : node.Recalls last := by
  cases node with
  | source kind inner => trivial
  | output kind inner => trivial
  | map domain codomain inner => cases h
  | combine left right inner => cases h
  | collect kind inner => cases h

omit [DecidableEq β] in
/-- The results that are recorded are those of all elements. -/
theorem MapNode.length_resultsFrom {domain codomain : Kind β} (node : MapNode domain codomain)
    (index : Nat) (elements : List domain.Val) :
    (node.resultsFrom index elements).length = elements.length := by
  induction elements generalizing index with
  | nil => rfl
  | cons element rest ih => simp [resultsFrom, ih]

omit [DecidableEq β] in
/-- The elements that an evaluation records are those of the input. -/
theorem MapNode.map_fst_commit_memo {domain codomain : Kind β} (node : MapNode domain codomain)
    (source : Slot domain.Val) :
    (node.commit source (node.resultsFrom 0 source.values)).1.memo.map Prod.fst =
      source.values := by
  have hlength : source.values.length =
      ((node.resultsFrom 0 source.values).map Prod.fst).length := by
    rw [List.length_map, node.length_resultsFrom]
  rw [commit_memo, List.map_fst_zip (Nat.le_of_eq hlength)]

/-- Refreshing a node leaves it, or evaluates it once: it then remembers what its inputs hold in any
graph that begins with the nodes in front of it. -/
theorem Node.refresh_or_recalls (node : Node β) (front : List (Node β)) :
    (node.refresh front).1 = node ∨
      (node.refresh front).1.stats.evaluations = node.stats.evaluations + 1 ∧
        ∀ graph : StageGraph β, front <+: graph.nodes →
          (node.refresh front).1.Recalls (some graph) := by
  cases node with
  | source kind inner => exact .inl rfl
  | output kind inner => exact .inl rfl
  | map domain codomain inner =>
    rcases inner.refresh_cases front with ⟨_, h⟩ | ⟨source, hsource, ⟨_, h⟩ | ⟨_, h⟩⟩
    · exact .inl (by simp only [Node.refresh, h])
    · exact .inl (by simp only [Node.refresh, h])
    · simp only [Node.refresh, h]
      exact .inr ⟨Stats.evaluations_countEvaluation .., fun graph hfront =>
        ⟨source, StageGraph.slot?_of_prefix hfront hsource, rfl, inner.map_fst_commit_memo source⟩⟩
  | combine left right inner =>
    rcases inner.refresh_cases front with
      ⟨_, h⟩ | ⟨lefts, rights, hlefts, hrights, ⟨_, h⟩ | ⟨_, h⟩⟩
    · exact .inl (by simp only [Node.refresh, h])
    · exact .inl (by simp only [Node.refresh, h])
    · simp only [Node.refresh, h]
      exact .inr ⟨Stats.evaluations_countEvaluation .., fun graph hfront =>
        ⟨lefts, rights, StageGraph.slot?_of_prefix hfront hlefts,
          StageGraph.slot?_of_prefix hfront hrights, rfl⟩⟩
  | collect kind inner =>
    rcases inner.refresh_cases front with ⟨_, h⟩ | ⟨source, hsource, ⟨_, h⟩ | ⟨_, h⟩⟩
    · exact .inl (by simp only [Node.refresh, h])
    · exact .inl (by simp only [Node.refresh, h])
    · simp only [Node.refresh, h]
      exact .inr ⟨Stats.evaluations_countEvaluation .., fun graph hfront =>
        ⟨source, StageGraph.slot?_of_prefix hfront hsource, rfl⟩⟩

/-! ## What one operation does to a graph -/

omit [DecidableEq β] in
/-- The node has just been added: it has not been evaluated and remembers nothing. -/
def Node.IsNew (node : Node β) : Prop := node.IsBlank ∧ node.stats.evaluations = 0

/-- A node that has just been added remembers nothing. -/
theorem Node.IsNew.recalls {node : Node β} (h : node.IsNew) : node.Recalls none := by
  obtain ⟨hblank, _⟩ := h
  cases node with
  | source kind inner => trivial
  | output kind inner => trivial
  | map domain codomain inner => exact ⟨hblank.1, hblank.2.1⟩
  | combine left right inner => exact hblank.1
  | collect kind inner => exact hblank.1

/-- One operation of the host, seen from the graph: nodes are added, a node that is never evaluated
is overwritten, or the graph is run. -/
inductive StageGraph.Moves (before after : StageGraph β) : Prop where
  | build (added : List (Node β)) (hnew : ∀ node ∈ added, node.IsNew)
    (hnodes : after.nodes = before.nodes ++ added)
  | overwrite {id : Nat} {node next : Node β} (hnode : before.nodes[id]? = some node)
    (hnodes : after.nodes = before.nodes.set id next) (hstage : next.stage = node.stage)
    (hcomputing : node.stage.isComputing = false)
    (hevaluations : next.stats.evaluations = node.stats.evaluations)
  | run (signal : Signal) (hgraph : after = (before.run signal).1)

namespace StageGraph

/-- A graph that is left as it is. -/
theorem Moves.stay {before after : StageGraph β} (h : after.nodes = before.nodes) :
    before.Moves after :=
  .build [] (by simp) (by rw [h, List.append_nil])

/-- Adding one node. -/
theorem Moves.withNode (graph : StageGraph β) {node : Node β} (h : node.IsNew) :
    graph.Moves (graph.withNode node) :=
  .build [node] (by simpa using h) rfl

/-- Supplying values overwrites a source at most. -/
theorem moves_setValues (graph : StageGraph β) (kind : Kind β) (id : Nat)
    (values : List kind.Val) : graph.Moves (graph.setValues kind id values).1 := by
  rcases graph.setValues_cases kind id values with ⟨inner, hinner, h⟩ | ⟨_, h⟩
  · have hstats : (setNode inner values).1.stats.evaluations = inner.stats.evaluations := by
      unfold setNode Stats.countChange
      dsimp only
      split <;> rfl
    rw [h]
    exact .overwrite hinner rfl rfl rfl hstats
  · exact .stay (by rw [h])

/-- A commit overwrites an output at most. -/
theorem moves_commit {kind : Kind β} (graph : StageGraph β) (output : Output kind)
    (pending : Pending kind) : graph.Moves (graph.commit output pending) := by
  rcases graph.commit_cases output pending with ⟨inner, hinner, h⟩ | ⟨_, h⟩
  · rw [h]
    exact .overwrite hinner rfl rfl rfl rfl
  · exact .stay (by rw [h])

/-- Taking a value overwrites an output at most. -/
theorem moves_take {kind : Kind β} (graph : StageGraph β) (output : Output kind) :
    graph.Moves (graph.take output).1 := by
  rcases graph.take_cases output with ⟨pending, _, h⟩ | ⟨_, h⟩
  · rw [h]
    exact graph.moves_commit output pending
  · exact .stay (by rw [h])

/-- No operation removes a node. -/
theorem Moves.length_le {before after : StageGraph β} (h : before.Moves after) :
    before.nodes.length ≤ after.nodes.length := by
  cases h with
  | build added hnew hnodes => simp [hnodes]
  | overwrite hnode hnodes hstage hcomputing hevaluations => simp [hnodes]
  | run signal hgraph =>
    rw [hgraph]
    exact Nat.le_of_eq (before.length_run signal).symm

end StageGraph

namespace Session

/-- Every operation of the host is one of three things for the graph. -/
theorem Step.moves {session next : Session β} (h : session.Step next) :
    session.graph.Moves next.graph := by
  cases h with
  | source kind => exact .withNode _ ⟨trivial, rfl⟩
  | singleSource kind initial => exact .withNode _ ⟨trivial, rfl⟩
  | sourceValues | sourceValue | asValues => exact .stay rfl
  | map | tryMap | flatMap | filter | mapSingle => exact .withNode _ ⟨⟨rfl, rfl, rfl⟩, rfl⟩
  | combine | combineSingle => exact .withNode _ ⟨⟨rfl, rfl⟩, rfl⟩
  | collect => exact .withNode _ ⟨⟨rfl, rfl⟩, rfl⟩
  | @concat kind left right hleft hright =>
    refine .build [.combine (.list kind) (.list kind)
      { leftSource := left.id, rightSource := right.id }, .map _ _ _] (fun node hnode => ?_)
      (List.append_assoc _ _ _)
    simp only [List.mem_cons, List.not_mem_nil, or_false] at hnode
    rcases hnode with rfl | rfl
    · exact ⟨⟨rfl, rfl⟩, rfl⟩
    · exact ⟨⟨rfl, rfl, rfl⟩, rfl⟩
  | output => exact .withNode _ ⟨rfl, rfl⟩
  | setSource hsource values => exact session.graph.moves_setValues _ _ values
  | setSingle hsource value => exact session.graph.moves_setValues _ _ [value]
  | setParallel isParallel => exact .stay rfl
  | run signal => exact .run signal rfl
  | take houtput => exact session.graph.moves_take _
  | commit houtput pending => exact session.graph.moves_commit _ pending

/-! ## Histories -/

/-- The session has come about behind others, the latest first, by one operation each. -/
inductive History : Session β → List (Session β) → Prop where
  | start : History {} []
  | step {session next : Session β} {past : List (Session β)} (h : History session past)
    (hstep : session.Step next) : History next (session :: past)

omit [DecidableEq β] in
/-- The graph right behind the last operation in which the node under a number was evaluated. An
operation evaluates a node at most once and those in front of it before, so the inputs of the node
hold there what it was evaluated against. -/
def lastEvaluated? (id : Nat) : List (Session β) → Option (StageGraph β)
  | [] => none
  | [_] => none
  | after :: before :: past =>
    if (after.graph.stats id).evaluations = (before.graph.stats id).evaluations then
      lastEvaluated? id (before :: past)
    else some after.graph

namespace History

variable {session next : Session β} {past : List (Session β)} {id : Nat}

omit [DecidableEq β] in
/-- An operation that does not count an evaluation leaves when it was. -/
theorem lastEvaluated?_of_eq
    (h : (next.graph.stats id).evaluations = (session.graph.stats id).evaluations) :
    lastEvaluated? id (next :: session :: past) = lastEvaluated? id (session :: past) := by
  rw [lastEvaluated?, if_pos h]

omit [DecidableEq β] in
/-- An operation that counts an evaluation is the last one that does. -/
theorem lastEvaluated?_of_ne
    (h : (next.graph.stats id).evaluations ≠ (session.graph.stats id).evaluations) :
    lastEvaluated? id (next :: session :: past) = some next.graph := by
  rw [lastEvaluated?, if_neg h]

/-- What has a history can be reached. -/
theorem reachable (h : session.History past) : session.Reachable := by
  induction h with
  | start => exact .empty
  | step _ hstep ih => exact ih.step hstep

/-- A node that is not there yet has not been evaluated. -/
theorem lastEvaluated?_of_length_le (h : session.History past)
    (hid : session.graph.nodes.length ≤ id) : lastEvaluated? id (session :: past) = none := by
  induction h with
  | start => rfl
  | @step before after earlier _ hstep ih =>
    have hbefore := Nat.le_trans hstep.moves.length_le hid
    have hstats : (after.graph.stats id).evaluations = (before.graph.stats id).evaluations := by
      rw [StageGraph.stats_of_length_le hid, StageGraph.stats_of_length_le hbefore]
    rw [lastEvaluated?_of_eq hstats]
    exact ih hbefore

/-- One operation keeps that every node remembers what its inputs held when it was evaluated last.
-/
theorem recalls_step (h : session.History past) (hstep : session.Step next)
    (hrecalls : ∀ (id : Nat) (node : Node β), session.graph.nodes[id]? = some node →
      node.Recalls (lastEvaluated? id (session :: past)))
    {node : Node β} (hnode : next.graph.nodes[id]? = some node) :
    node.Recalls (lastEvaluated? id (next :: session :: past)) := by
  -- A node that stands remembers what it did.
  have hstand : session.graph.nodes[id]? = some node →
      node.Recalls (lastEvaluated? id (next :: session :: past)) := by
    intro hbefore
    have hstats : (next.graph.stats id).evaluations = (session.graph.stats id).evaluations := by
      rw [StageGraph.stats_of_getElem? hnode, StageGraph.stats_of_getElem? hbefore]
    rw [lastEvaluated?_of_eq hstats]
    exact hrecalls id node hbefore
  cases hstep.moves with
  | build added hnew hnodes =>
    by_cases hid : id < session.graph.nodes.length
    · rw [hnodes, List.getElem?_append_left hid] at hnode
      exact hstand hnode
    · have hend : session.graph.nodes.length ≤ id := Nat.le_of_not_lt hid
      have hadded : node ∈ added := by
        rw [hnodes, List.getElem?_append_right hend] at hnode
        exact List.mem_of_getElem? hnode
      have hstats : (next.graph.stats id).evaluations = (session.graph.stats id).evaluations := by
        rw [StageGraph.stats_of_getElem? hnode, StageGraph.stats_of_length_le hend,
          (hnew node hadded).2]
      rw [lastEvaluated?_of_eq hstats, h.lastEvaluated?_of_length_le hend]
      exact (hnew node hadded).recalls
  | @overwrite place found written hfound hnodes hstage hcomputing _ =>
    by_cases hplace : place = id
    · subst hplace
      obtain ⟨hlt, _⟩ := List.getElem?_eq_some_iff.mp hfound
      rw [hnodes, List.getElem?_set_self hlt] at hnode
      obtain rfl := Option.some.inj hnode
      exact Node.recalls_of_isComputing (by rw [hstage, hcomputing]) _
    · rw [hnodes, List.getElem?_set_ne hplace] at hnode
      exact hstand hnode
  | run signal hgraph =>
    have hlength : id < session.graph.nodes.length := by
      have hlt := (List.getElem?_eq_some_iff.mp hnode).1
      rwa [hgraph, session.graph.length_run signal] at hlt
    have hbefore := List.getElem?_eq_getElem hlength
    rcases session.graph.run_getElem? signal hbefore with hsame | ⟨_, hrefreshed⟩
    · rw [hgraph, hsame, ← hbefore] at hnode
      exact hstand hnode
    · rw [← hgraph] at hrefreshed
      have hfront : next.graph.nodes.take id <+: next.graph.nodes := List.take_prefix id _
      obtain rfl := Option.some.inj (hnode.symm.trans hrefreshed)
      rcases session.graph.nodes[id].refresh_or_recalls (next.graph.nodes.take id) with
        hsame | ⟨hevaluations, hrecalled⟩
      · rw [hsame]
        exact hsame ▸ hstand (by rw [hsame]; exact hbefore)
      · have hstats :
            (next.graph.stats id).evaluations ≠ (session.graph.stats id).evaluations := by
          rw [StageGraph.stats_of_getElem? hrefreshed, StageGraph.stats_of_getElem? hbefore,
            hevaluations]
          exact Nat.succ_ne_self _
        rw [lastEvaluated?_of_ne hstats]
        exact hrecalled next.graph hfront

/-- In every history a node remembers what its inputs held behind the operation that evaluated it
last, and nothing when there is none. -/
theorem recalls (h : session.History past) {node : Node β}
    (hnode : session.graph.nodes[id]? = some node) :
    node.Recalls (lastEvaluated? id (session :: past)) := by
  induction h generalizing id node with
  | start => simp [StageGraph.empty] at hnode
  | step hhistory hstep ih => exact hhistory.recalls_step hstep (fun _ _ => ih) hnode

end History

/-- What can be reached has a history. -/
theorem Reachable.exists_history {session : Session β} (h : session.Reachable) :
    ∃ past, session.History past := by
  induction h with
  | empty => exact ⟨[], .start⟩
  | step _ hstep ih =>
    obtain ⟨past, hpast⟩ := ih
    exact ⟨_, hpast.step hstep⟩

end Session

end TemplateCodegen.Incremental
