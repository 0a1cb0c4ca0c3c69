import TemplateCodegen.Proofs.Incremental.Upkeep

/-!
# Consistency of a graph

The invariant of a whole graph: every node is settled, holds admitted values and finds its inputs in
front of it. Adding a node, supplying values, taking a value and running the graph keep it. Main
statement: behind a run that is not cancelled every node that an output depends on holds what its
stage gives from scratch for the values supplied (`Settled.run_ok_batch?`).
-/

namespace TemplateCodegen.Incremental

variable {β : Type} [Payload β]

/-- Every stage finds its inputs in front of it. -/
def IsLinked (stages : List (Stage β)) : Prop :=
  ∀ (id : Nat) (stage : Stage β), stages[id]? = some stage → stage.IsLinked (stages.take id)

/-- The sources hold what has been supplied under their numbers. -/
def IsSupplied (supply : Supply β) (nodes : List (Node β)) : Prop :=
  ∀ (id : Nat) (kind : Kind β) (inner : SourceNode kind),
    nodes[id]? = some (.source kind inner) → inner.slot.values = supply id kind

/-- Putting a node of the same stage into the place of another leaves the stages. -/
theorem map_stage_set {nodes : List (Node β)} {id : Nat} {node next : Node β}
    (hnode : nodes[id]? = some node) (hstage : next.stage = node.stage) :
    (nodes.set id next).map Node.stage = nodes.map Node.stage := by
  obtain ⟨hid, rfl⟩ := List.getElem?_eq_some_iff.mp hnode
  have hmapped : id < (nodes.map Node.stage).length := by simpa using hid
  have hself := List.set_getElem_self hmapped
  rw [List.getElem_map] at hself
  rw [List.map_set, hstage, hself]

/-- Adding a stage that finds its inputs leaves all stages linked. -/
theorem IsLinked.concat {stages : List (Stage β)} (h : IsLinked stages) {stage : Stage β}
    (hstage : stage.IsLinked stages) : IsLinked (stages ++ [stage]) := by
  intro id found hfound
  by_cases hid : id < stages.length
  · rw [List.getElem?_append_left hid] at hfound
    rw [List.take_append_of_le_length (Nat.le_of_lt hid)]
    exact h id found hfound
  · obtain ⟨hlt, _⟩ := List.getElem?_eq_some_iff.mp hfound
    obtain rfl : id = stages.length := by
      simp only [List.length_append, List.length_cons, List.length_nil] at hlt
      omega
    obtain rfl : stage = found := by simpa using hfound
    rwa [List.take_left]

/-- In front of the last stage all stages are linked too, and the last one is linked to them. -/
theorem IsLinked.of_concat {stages : List (Stage β)} {stage : Stage β}
    (h : IsLinked (stages ++ [stage])) : IsLinked stages ∧ stage.IsLinked stages := by
  refine ⟨fun id found hfound => ?_, ?_⟩
  · obtain ⟨hid, _⟩ := List.getElem?_eq_some_iff.mp hfound
    have hplace := h id found (by rwa [List.getElem?_append_left hid])
    rwa [List.take_append_of_le_length (Nat.le_of_lt hid)] at hplace
  · have hlast := h stages.length stage List.getElem?_concat_length
    rwa [List.take_left] at hlast

variable [DecidableEq β]

/-- In linked stages every stage that gives values denotes some, whatever is supplied. -/
theorem IsLinked.exists_denotes {stages : List (Stage β)} (h : IsLinked stages)
    (supply : Supply β) {id : Nat} {kind : Kind β}
    (hkind : (stages[id]?).bind Stage.kind? = some kind) :
    ∃ values, Denotes supply stages id kind values := by
  induction stages using List.reverseRecOn generalizing id kind with
  | nil => simp at hkind
  | append_singleton stages stage ih =>
    obtain ⟨hfront, hstage⟩ := h.of_concat
    obtain ⟨found, hfound, hgiven⟩ := Option.bind_eq_some_iff.mp hkind
    by_cases hid : id < stages.length
    · rw [List.getElem?_append_left hid] at hkind
      obtain ⟨values, hvalues⟩ := ih hfront hkind
      exact ⟨values, hvalues.concat stage⟩
    · obtain ⟨hlt, _⟩ := List.getElem?_eq_some_iff.mp hfound
      obtain rfl : id = stages.length := by
        simp only [List.length_append, List.length_cons, List.length_nil] at hlt
        omega
      obtain rfl : stage = found := by simpa using hfound
      cases stage with
      | source given =>
        obtain rfl : given = kind := Option.some.inj hgiven
        exact ⟨_, .of_source List.getElem?_concat_length⟩
      | map domain codomain input fn =>
        obtain rfl : codomain = kind := Option.some.inj hgiven
        obtain ⟨values, hvalues⟩ := ih hfront hstage
        exact ⟨_, hvalues.map codomain fn⟩
      | combine left right leftInput rightInput =>
        obtain rfl : .pair left right = kind := Option.some.inj hgiven
        obtain ⟨lefts, hlefts⟩ := ih hfront hstage.1
        obtain ⟨rights, hrights⟩ := ih hfront hstage.2
        exact ⟨_, hlefts.combine hrights⟩
      | collect given input =>
        obtain rfl : .list given = kind := Option.some.inj hgiven
        obtain ⟨values, hvalues⟩ := ih hfront hstage
        exact ⟨_, hvalues.collect⟩
      | output given input => cases hgiven

/-- What stands in a list is left or overwritten when one node is. -/
theorem Advances.set {nodes : List (Node β)} {id : Nat} {node next : Node β}
    (hnode : nodes[id]? = some node) (h : node.Precedes next) :
    Advances nodes (nodes.set id next) := by
  intro kind place slot' hslot'
  obtain ⟨found, hfound, hheld⟩ := slot?_eq_some.mp hslot'
  by_cases hplace : id = place
  · subst hplace
    obtain ⟨hid, _⟩ := List.getElem?_eq_some_iff.mp hnode
    rw [List.getElem?_set_self hid] at hfound
    obtain rfl := Option.some.inj hfound
    obtain ⟨slot, hslot, hprecedes⟩ := h kind slot' hheld
    exact ⟨slot, slot?_eq_some.mpr ⟨node, hnode, hslot⟩, hprecedes⟩
  · rw [List.getElem?_set_ne hplace] at hfound
    exact ⟨slot', slot?_eq_some.mpr ⟨found, hfound, hheld⟩, .inl rfl⟩

/-- The invariant of a graph. -/
structure Settled (admission : Admission β) (nodes : List (Node β)) : Prop where
  /-- Every node may rely on what it remembers. -/
  node : ∀ (id : Nat) (node : Node β), nodes[id]? = some node →
    node.IsSettled admission (nodes.take id)
  /-- All values held are admitted. -/
  holds : ∀ node ∈ nodes, node.HoldsAdmitted admission
  /-- All stage functions keep the admission. -/
  keeps : ∀ node ∈ nodes, node.stage.Keeps admission
  /-- Every stage finds its inputs in front of it. -/
  linked : IsLinked (nodes.map Node.stage)

namespace Settled

variable {admission : Admission β} {nodes : List (Node β)}

/-- The graph without nodes. -/
theorem nil : Settled admission ([] : List (Node β)) where
  node _ _ h := by simp at h
  holds _ h := by simp at h
  keeps _ h := by simp at h
  linked _ _ h := by simp at h

/-- One node may be overwritten by one that goes on from it. -/
theorem set (h : Settled admission nodes) {id : Nat} {node next : Node β}
    (hnode : nodes[id]? = some node) (hstage : next.stage = node.stage)
    (hprecedes : node.Precedes next) (hsettled : next.IsSettled admission (nodes.take id))
    (hholds : next.HoldsAdmitted admission) : Settled admission (nodes.set id next) where
  node place found hfound := by
    by_cases hplace : id = place
    · subst hplace
      obtain ⟨hid, _⟩ := List.getElem?_eq_some_iff.mp hnode
      rw [List.getElem?_set_self hid] at hfound
      obtain rfl := Option.some.inj hfound
      rwa [List.take_set_of_le (Nat.le_refl _)]
    · rw [List.getElem?_set_ne hplace] at hfound
      have hfront := h.node place found hfound
      by_cases hlt : place ≤ id
      · rwa [List.take_set_of_le hlt]
      · have htake : (nodes.take place)[id]? = some node := by
          rw [List.getElem?_take_of_lt (by omega), hnode]
        rw [List.take_set]
        exact hfront.advance (Advances.set htake hprecedes)
  holds found hfound := by
    rcases List.mem_or_eq_of_mem_set hfound with hmem | rfl
    · exact h.holds found hmem
    · exact hholds
  keeps found hfound := by
    rcases List.mem_or_eq_of_mem_set hfound with hmem | rfl
    · exact h.keeps found hmem
    · rw [hstage]
      exact h.keeps node (List.mem_of_getElem? hnode)
  linked := by
    rw [map_stage_set hnode hstage]
    exact h.linked

/-- One more node may be added. -/
theorem concat (h : Settled admission nodes) {node : Node β}
    (hsettled : node.IsSettled admission nodes) (hholds : node.HoldsAdmitted admission)
    (hkeeps : node.stage.Keeps admission)
    (hlinked : node.stage.IsLinked (nodes.map Node.stage)) :
    Settled admission (nodes ++ [node]) where
  node id found hfound := by
    by_cases hid : id < nodes.length
    · rw [List.getElem?_append_left hid] at hfound
      rw [List.take_append_of_le_length (Nat.le_of_lt hid)]
      exact h.node id found hfound
    · obtain ⟨hlt, _⟩ := List.getElem?_eq_some_iff.mp hfound
      obtain rfl : id = nodes.length := by
        simp only [List.length_append, List.length_cons, List.length_nil] at hlt
        omega
      obtain rfl : node = found := by simpa using hfound
      rwa [List.take_left]
  holds found hfound := by
    rcases List.mem_append.mp hfound with hmem | hmem
    · exact h.holds found hmem
    · rwa [List.mem_singleton.mp hmem]
  keeps found hfound := by
    rcases List.mem_append.mp hfound with hmem | hmem
    · exact h.keeps found hmem
    · rwa [List.mem_singleton.mp hmem]
  linked := by
    rw [List.map_append]
    exact h.linked.concat hlinked

/-- One node may be refreshed. -/
theorem refresh (h : Settled admission nodes) (hfaithful : admission.IsFaithful) {id : Nat}
    {node : Node β} (hnode : nodes[id]? = some node) :
    Settled admission (nodes.set id (node.refresh (nodes.take id)).1) := by
  have hmem := List.mem_of_getElem? hnode
  have hfront : ∀ other ∈ nodes.take id, other.HoldsAdmitted admission :=
    fun other hother => h.holds other (List.mem_of_mem_take hother)
  have hsettled := h.node id node hnode
  exact h.set hnode (node.stage_refresh _) (node.precedes_refresh _)
    (hsettled.refresh hfaithful (h.holds node hmem) (h.keeps node hmem) hfront)
    ((h.holds node hmem).refresh hfaithful hsettled (h.keeps node hmem) hfront)

/-- Every run keeps the invariant, complete or cancelled. -/
theorem run {graph : StageGraph β} (h : Settled admission graph.nodes)
    (hfaithful : admission.IsFaithful) (signal : Signal) :
    Settled admission (graph.run signal).1.nodes :=
  StageGraph.run_keeps (fun _ _ _ hnode hnodes => hnodes.refresh hfaithful hnode) graph signal h

end Settled

/-! ## Operations of the host -/

/-- The supply with other values under a number and a kind. -/
def Supply.set (supply : Supply β) (id : Nat) (kind : Kind β) (values : List kind.Val) : Supply β :=
  fun id' kind' => if h : id = id' ∧ kind = kind' then h.2 ▸ values else supply id' kind'

/-- The values that were set are found again. -/
theorem Supply.set_self (supply : Supply β) (id : Nat) (kind : Kind β) (values : List kind.Val) :
    supply.set id kind values id kind = values := by
  simp [Supply.set]

/-- Setting values leaves those under other numbers alone. -/
theorem Supply.set_of_ne (supply : Supply β) {id id' : Nat} (h : id ≠ id') (kind kind' : Kind β)
    (values : List kind.Val) : supply.set id kind values id' kind' = supply id' kind' := by
  simp [Supply.set, h]

/-- Supplying values overwrites a source of their kind under the number, if there is one, and does
nothing else. -/
theorem StageGraph.setValues_cases (graph : StageGraph β) (kind : Kind β) (id : Nat)
    (values : List kind.Val) :
    (∃ inner, graph.nodes[id]? = some (.source kind inner) ∧
      graph.setValues kind id values =
        ({ graph with nodes := graph.nodes.set id (.source kind (setNode inner values).1) },
          (setNode inner values).2)) ∨
      ((∀ inner, graph.nodes[id]? ≠ some (.source kind inner)) ∧
        graph.setValues kind id values = (graph, false)) := by
  unfold setValues
  split
  · rename_i found inner hfound
    by_cases hkind : found = kind
    · subst hkind
      exact .inl ⟨inner, hfound, by simp⟩
    · refine .inr ⟨fun other hother => hkind ?_, by simp [hkind]⟩
      rw [hfound] at hother
      cases hother
      rfl
  · rename_i hother
    exact .inr ⟨fun inner hinner => hother kind inner hinner, rfl⟩

/-- A commit overwrites the mark of an output of the kind under the number, if there is one, and
does nothing else. -/
theorem StageGraph.commit_cases {kind : Kind β} (graph : StageGraph β) (output : Output kind)
    (pending : Pending kind) :
    (∃ inner : OutputNode kind, graph.nodes[output.id]? = some (.output kind inner) ∧
      graph.commit output pending =
        { graph with nodes := graph.nodes.set output.id (.output kind
            { inner with
              taken := some pending.version
              stats := { inner.stats with computations := inner.stats.computations + 1 } }) }) ∨
      ((∀ inner : OutputNode kind, graph.nodes[output.id]? ≠ some (.output kind inner)) ∧
        graph.commit output pending = graph) := by
  unfold commit
  split
  · rename_i found inner hfound
    by_cases hkind : found = kind
    · subst hkind
      exact .inl ⟨inner, hfound, by simp⟩
    · refine .inr ⟨fun other hother => hkind ?_, by simp [hkind]⟩
      rw [hfound] at hother
      cases hother
      rfl
  · rename_i hother
    exact .inr ⟨fun inner hinner => hother kind inner hinner, rfl⟩

/-- Taking a value is committing the pending one, or nothing. -/
theorem StageGraph.take_cases {kind : Kind β} (graph : StageGraph β) (output : Output kind) :
    (∃ pending, graph.pending? output = some pending ∧
      graph.take output = (graph.commit output pending, some pending.value)) ∨
      (graph.pending? output = none ∧ graph.take output = (graph, none)) := by
  unfold take
  cases graph.pending? output with
  | some pending => exact .inl ⟨pending, rfl, rfl⟩
  | none => exact .inr ⟨rfl, rfl⟩

/-! ## Adding nodes -/

omit [DecidableEq β] in
/-- The node remembers nothing and holds nothing, unless it is a source. -/
def Node.IsBlank : Node β → Prop
  | .source _ _ => True
  | .map _ _ node => node.seen = none ∧ node.memo = [] ∧ node.slot.values = []
  | .combine _ _ node => node.seen = none ∧ node.slot.values = []
  | .collect _ node => node.seen = none ∧ node.slot.values = []
  | .output _ node => node.taken = none

/-- A node that remembers nothing is settled. -/
theorem Node.IsBlank.isSettled {node : Node β} (hblank : node.IsBlank) (admission : Admission β)
    (front : List (Node β)) : node.IsSettled admission front := by
  cases node with
  | source kind inner => trivial
  | output kind inner => trivial
  | map domain codomain inner =>
    obtain ⟨hseen, hmemo, _⟩ := hblank
    refine ⟨fun entry hentry => ?_, fun entry hentry => ?_, fun source version _ h => ?_⟩
    · simp [hmemo] at hentry
    · simp [hmemo] at hentry
    · simp [hseen] at h
  | combine left right inner =>
    intro lefts rights versions _ _ h
    simp [hblank.1] at h
  | collect kind inner =>
    intro source version _ h
    simp [hblank.1] at h

omit [DecidableEq β] in
/-- The graph with one more node. -/
def StageGraph.withNode (graph : StageGraph β) (node : Node β) : StageGraph β :=
  { graph with nodes := graph.nodes ++ [node] }

omit [DecidableEq β] in
/-- The addition of a node, run from a graph. -/
theorem StageGraph.run_push (node : Node β) (graph : StageGraph β) :
    (push node).run graph = pure (graph.nodes.length, graph.withNode node) := rfl

omit [DecidableEq β] in
/-- The stages of a graph with one more node. -/
theorem StageGraph.stages_withNode (graph : StageGraph β) (node : Node β) :
    (graph.withNode node).stages = graph.stages ++ [node.stage] := by
  simp [stages, withNode]

omit [DecidableEq β] in
/-- There are as many stages as nodes. -/
theorem StageGraph.length_stages (graph : StageGraph β) :
    graph.stages.length = graph.nodes.length := by
  simp [stages]

omit [DecidableEq β] in
/-- The stage of the new node is found at the end. -/
theorem StageGraph.getElem?_withNode (graph : StageGraph β) (node : Node β) :
    (graph.withNode node).stages[graph.nodes.length]? = some node.stage := by
  rw [stages_withNode, ← graph.length_stages, List.getElem?_concat_length]

/-- What the last of the stages denotes is denoted by the new node. -/
theorem Denotes.withNode {supply : Supply β} {graph : StageGraph β} {node : Node β} {kind : Kind β}
    {values : List kind.Val}
    (h : Denotes supply (graph.stages ++ [node.stage]) graph.stages.length kind values) :
    Denotes supply (graph.withNode node).stages graph.nodes.length kind values := by
  rw [StageGraph.stages_withNode, ← graph.length_stages]
  exact h

/-- A blank node that finds its inputs may be added. -/
theorem Settled.withNode {admission : Admission β} {graph : StageGraph β} {node : Node β}
    (h : Settled admission graph.nodes) (hblank : node.IsBlank)
    (hholds : node.HoldsAdmitted admission) (hkeeps : node.stage.Keeps admission)
    (hlinked : node.stage.IsLinked graph.stages) :
    Settled admission (graph.withNode node).nodes :=
  h.concat (hblank.isSettled admission graph.nodes) hholds hkeeps hlinked

omit [DecidableEq β] in
/-- One more node leaves the sources supplied, if it is so itself. -/
theorem IsSupplied.withNode {supply : Supply β} {graph : StageGraph β} {node : Node β}
    (h : IsSupplied supply graph.nodes)
    (hnode : ∀ kind inner, node = .source kind inner →
      inner.slot.values = supply graph.nodes.length kind) :
    IsSupplied supply (graph.withNode node).nodes := by
  intro id kind inner hinner
  by_cases hid : id < graph.nodes.length
  · rw [StageGraph.withNode, List.getElem?_append_left hid] at hinner
    exact h id kind inner hinner
  · obtain ⟨hlt, _⟩ := List.getElem?_eq_some_iff.mp hinner
    obtain rfl : id = graph.nodes.length := by
      simp only [StageGraph.withNode, List.length_append, List.length_cons, List.length_nil] at hlt
      omega
    refine hnode kind inner ?_
    simpa [StageGraph.withNode] using hinner

/-- What is supplied under a number behind the end does not matter yet. -/
theorem IsSupplied.set_length {supply : Supply β} {nodes : List (Node β)}
    (h : IsSupplied supply nodes) (kind : Kind β) (values : List kind.Val) :
    IsSupplied (supply.set nodes.length kind values) nodes := by
  intro id found inner hinner
  obtain ⟨hid, _⟩ := List.getElem?_eq_some_iff.mp hinner
  rw [Supply.set_of_ne supply (by omega)]
  exact h id found inner hinner

/-- A linked graph whose nodes are blank is settled when its sources hold admitted values. -/
theorem Settled.of_isBlank {admission : Admission β} {nodes : List (Node β)} {supply : Supply β}
    (hblank : ∀ node ∈ nodes, node.IsBlank) (hlinked : IsLinked (nodes.map Node.stage))
    (hkeeps : ∀ node ∈ nodes, node.stage.Keeps admission) (hsupplied : IsSupplied supply nodes)
    (hsupply : ∀ id kind, ∀ value ∈ supply id kind, kind.Admits admission value) :
    Settled admission nodes where
  node id node hnode := (hblank node (List.mem_of_getElem? hnode)).isSettled admission _
  holds node hnode := by
    rintro held hheld value hvalue
    have hempty := hblank node hnode
    cases node with
    | output kind inner => cases hheld
    | source kind inner =>
      cases hheld
      obtain ⟨id, hid⟩ := List.mem_iff_getElem?.mp hnode
      exact hsupply id kind value (hsupplied id kind inner hid ▸ hvalue)
    | map domain codomain inner =>
      cases hheld
      exact nomatch hempty.2.2 ▸ hvalue
    | combine left right inner =>
      cases hheld
      exact nomatch hempty.2 ▸ hvalue
    | collect kind inner =>
      cases hheld
      exact nomatch hempty.2 ▸ hvalue
  keeps := hkeeps
  linked := hlinked

section Operations

variable {admission : Admission β} {graph : StageGraph β} {supply : Supply β}

/-- Supplying values leaves the stages. -/
theorem StageGraph.stages_setValues (graph : StageGraph β) (kind : Kind β) (id : Nat)
    (values : List kind.Val) : (graph.setValues kind id values).1.stages = graph.stages := by
  rcases graph.setValues_cases kind id values with ⟨inner, hinner, h⟩ | ⟨_, h⟩
  · rw [h]
    exact map_stage_set hinner rfl
  · rw [h]

/-- A commit leaves the stages. -/
theorem StageGraph.stages_commit {kind : Kind β} (graph : StageGraph β) (output : Output kind)
    (pending : Pending kind) : (graph.commit output pending).stages = graph.stages := by
  rcases graph.commit_cases output pending with ⟨inner, hinner, h⟩ | ⟨_, h⟩
  · rw [h]
    exact map_stage_set hinner rfl
  · rw [h]

/-- Taking a value leaves the stages. -/
theorem StageGraph.stages_take {kind : Kind β} (graph : StageGraph β) (output : Output kind) :
    (graph.take output).1.stages = graph.stages := by
  rcases graph.take_cases output with ⟨pending, _, h⟩ | ⟨_, h⟩
  · rw [h]
    exact graph.stages_commit output pending
  · rw [h]

/-- A run leaves the stages. -/
theorem StageGraph.stages_run (graph : StageGraph β) (signal : Signal) :
    (graph.run signal).1.stages = graph.stages :=
  StageGraph.run_keeps (P := fun nodes => nodes.map Node.stage = graph.stages)
    (fun _ _ node hnode h => (map_stage_set hnode (node.stage_refresh _)).trans h) graph signal rfl

/-- A run leaves the number of nodes. -/
theorem StageGraph.length_run (graph : StageGraph β) (signal : Signal) :
    (graph.run signal).1.nodes.length = graph.nodes.length := by
  have hstages := congrArg List.length (graph.stages_run signal)
  rwa [StageGraph.length_stages, StageGraph.length_stages] at hstages

/-- Supplying admitted values keeps the invariant. -/
theorem Settled.setValues (h : Settled admission graph.nodes) {kind : Kind β} {id : Nat}
    {values : List kind.Val} (hvalues : ∀ value ∈ values, kind.Admits admission value) :
    Settled admission (graph.setValues kind id values).1.nodes := by
  rcases graph.setValues_cases kind id values with ⟨inner, hinner, heq⟩ | ⟨_, heq⟩
  · rw [heq]
    refine h.set hinner rfl (.of_slot rfl rfl (inner.slot.precedes_update values)) trivial ?_
    rintro held hheld
    obtain rfl := Option.some.inj hheld
    exact Slot.forall_mem_update (h.holds _ (List.mem_of_getElem? hinner) ⟨kind, inner.slot⟩ rfl)
      hvalues
  · rwa [heq]

/-- A commit keeps the invariant. -/
theorem Settled.commit (h : Settled admission graph.nodes) {kind : Kind β} (output : Output kind)
    (pending : Pending kind) : Settled admission (graph.commit output pending).nodes := by
  rcases graph.commit_cases output pending with ⟨inner, hinner, heq⟩ | ⟨_, heq⟩
  · rw [heq]
    exact h.set hinner rfl (.of_held? rfl) trivial (fun _ hheld => by cases hheld)
  · rwa [heq]

/-- Taking a value keeps the invariant. -/
theorem Settled.take (h : Settled admission graph.nodes) {kind : Kind β} (output : Output kind) :
    Settled admission (graph.take output).1.nodes := by
  rcases graph.take_cases output with ⟨pending, _, heq⟩ | ⟨_, heq⟩
  · rw [heq]
    exact h.commit output pending
  · rwa [heq]

omit [DecidableEq β] in
/-- A node that is put into the place of another keeps the sources supplied, if it does so itself.
-/
theorem IsSupplied.set {nodes : List (Node β)} (h : IsSupplied supply nodes) {id : Nat}
    {next : Node β} (hnext : ∀ kind inner, next = .source kind inner →
      inner.slot.values = supply id kind) : IsSupplied supply (nodes.set id next) := by
  intro place kind inner hinner
  by_cases hplace : id = place
  · subst hplace
    have hid : id < nodes.length := by
      obtain ⟨hlt, _⟩ := List.getElem?_eq_some_iff.mp hinner
      simpa using hlt
    rw [List.getElem?_set_self hid] at hinner
    exact hnext kind inner (Option.some.inj hinner)
  · rw [List.getElem?_set_ne hplace] at hinner
    exact h place kind inner hinner

/-- A run leaves the sources supplied. -/
theorem IsSupplied.run (h : IsSupplied supply graph.nodes) (signal : Signal) :
    IsSupplied supply (graph.run signal).1.nodes := by
  refine StageGraph.run_keeps (fun nodes id node hnode hnodes => hnodes.set ?_) graph signal h
  intro kind inner hinner
  cases node with
  | source found other => exact hnodes id kind inner (by rw [hnode]; exact congrArg some hinner)
  | output found other => cases hinner
  | map domain codomain other => cases hinner
  | combine left right other => cases hinner
  | collect found other => cases hinner

/-- A commit leaves the sources supplied. -/
theorem IsSupplied.commit (h : IsSupplied supply graph.nodes) {kind : Kind β}
    (output : Output kind) (pending : Pending kind) :
    IsSupplied supply (graph.commit output pending).nodes := by
  rcases graph.commit_cases output pending with ⟨inner, _, heq⟩ | ⟨_, heq⟩
  · rw [heq]
    exact h.set fun _ _ hnext => by cases hnext
  · rwa [heq]

/-- Taking a value leaves the sources supplied. -/
theorem IsSupplied.take (h : IsSupplied supply graph.nodes) {kind : Kind β}
    (output : Output kind) : IsSupplied supply (graph.take output).1.nodes := by
  rcases graph.take_cases output with ⟨pending, _, heq⟩ | ⟨_, heq⟩
  · rw [heq]
    exact h.commit output pending
  · rwa [heq]

/-- Supplying values makes the sources hold them, unless others count as equal to them. -/
theorem IsSupplied.setValues (h : IsSupplied supply graph.nodes) {kind : Kind β} {id : Nat}
    {values : List kind.Val}
    (hequal : ∀ inner, graph.nodes[id]? = some (.source kind inner) →
      (inner.slot.values == values) = true → inner.slot.values = values) :
    IsSupplied (supply.set id kind values) (graph.setValues kind id values).1.nodes := by
  have helse : ∀ place found inner, graph.nodes[place]? = some (.source found inner) →
      ¬(id = place ∧ kind = found) → inner.slot.values = supply.set id kind values place found := by
    intro place found inner hinner hne
    rw [h place found inner hinner]
    simp [Supply.set, hne]
  rcases graph.setValues_cases kind id values with ⟨inner, hinner, heq⟩ | ⟨hnone, heq⟩
  · rw [heq]
    intro place found other hother
    by_cases hplace : id = place
    · subst hplace
      obtain ⟨hid, _⟩ := List.getElem?_eq_some_iff.mp hinner
      rw [List.getElem?_set_self hid] at hother
      obtain rfl : kind = found := by
        cases hother
        rfl
      cases hother
      rw [Supply.set_self]
      exact Slot.update_values (hequal inner hinner)
    · rw [List.getElem?_set_ne hplace] at hother
      exact helse place found other hother (fun hboth => hplace hboth.1)
  · rw [heq]
    intro place found inner hinner
    refine helse place found inner hinner ?_
    rintro ⟨rfl, rfl⟩
    exact hnone inner hinner

/-- Supplying values that count as equal to those of a source leaves the graph. -/
theorem StageGraph.setValues_of_beq {kind : Kind β} {id : Nat} {values : List kind.Val}
    (h : ∀ inner, graph.nodes[id]? = some (.source kind inner) →
      (inner.slot.values == values) = true) : (graph.setValues kind id values).1 = graph := by
  rcases graph.setValues_cases kind id values with ⟨inner, hinner, heq⟩ | ⟨_, heq⟩
  · have hnode : (setNode inner values).1 = inner := by
      unfold setNode Slot.update
      rw [if_pos (h inner hinner)]
      rfl
    obtain ⟨hid, hget⟩ := List.getElem?_eq_some_iff.mp hinner
    rw [heq, hnode, ← hget, List.set_getElem_self]
  · rw [heq]

end Operations

/-! ## Complete runs -/

omit [DecidableEq β] in
/-- An output is marked in every round. -/
theorem demandedAfter_of_isOutput {nodes : List (Node β)} {id : Nat} {node : Node β}
    (hnode : nodes[id]? = some node) (h : node.isOutput = true) (rounds : Nat) :
    (demandedAfter nodes rounds)[id]? = some true := by
  induction rounds with
  | zero => simp [demandedAfter, hnode, h]
  | succ rounds ih => simp [demandedAfter, ih]

omit [DecidableEq β] in
/-- What a marked node reads is marked in the next round. -/
theorem demandedAfter_of_input {nodes : List (Node β)} {reader id rounds : Nat} {node : Node β}
    (hnode : nodes[reader]? = some node)
    (hmark : (demandedAfter nodes rounds)[reader]? = some true) (hid : id ∈ node.inputs)
    (hlt : id < nodes.length) : (demandedAfter nodes (rounds + 1))[id]? = some true := by
  have hentry : (node, true) ∈ nodes.zip (demandedAfter nodes rounds) :=
    List.mem_of_getElem? (List.getElem?_zip_eq_some.mpr ⟨hnode, hmark⟩)
  have hwanted : id ∈ (nodes.zip (demandedAfter nodes rounds)).flatMap
      fun entry => if entry.2 then entry.1.inputs else [] :=
    List.mem_flatMap.mpr ⟨(node, true), hentry, by simpa using hid⟩
  have hlength : id < (demandedAfter nodes rounds).length := by
    rw [length_demandedAfter]
    exact hlt
  simp only [demandedAfter, List.getElem?_mapIdx, List.getElem?_eq_getElem hlength,
    Option.map_some, Option.some.injEq, Bool.or_eq_true, List.contains_iff_mem]
  exact .inr hwanted

omit [DecidableEq β] in
/-- In a linked graph every node that an output depends on is marked: a chain of readers only leads
forward, so it is no longer than the rest of the graph. -/
theorem demandedAfter_of_wanted {nodes : List (Node β)} (hlinked : IsLinked (nodes.map Node.stage))
    {id : Nat} (h : Wanted (nodes.map Node.stage) id) {rounds : Nat}
    (hrounds : nodes.length ≤ id + rounds) (hlt : id < nodes.length) :
    (demandedAfter nodes rounds)[id]? = some true := by
  induction h generalizing rounds with
  | output place hout =>
    rw [List.getElem?_map] at place
    obtain ⟨node, hnode, rfl⟩ := Option.map_eq_some_iff.mp place
    rw [Node.isOutput_stage] at hout
    exact demandedAfter_of_isOutput hnode hout rounds
  | @input reader id stage _ place hinput ih =>
    have hfront := (hlinked reader stage place).lt hinput
    rw [List.length_take] at hfront
    rw [List.getElem?_map] at place
    obtain ⟨node, hnode, rfl⟩ := Option.map_eq_some_iff.mp place
    rw [Node.inputs_stage] at hinput
    have hreader : reader < nodes.length := (List.getElem?_eq_some_iff.mp hnode).1
    cases rounds with
    | zero => omega
    | succ rounds => exact demandedAfter_of_input hnode (ih (by omega) hreader) hinput hlt

omit [DecidableEq β] in
/-- In a linked graph in which every node is an output or is read by another one, an output depends
on every node. -/
theorem wanted_of_read {nodes : List (Node β)} (hlinked : IsLinked (nodes.map Node.stage))
    (hread : ∀ id node, nodes[id]? = some node →
      node.isOutput = true ∨ ∃ reader ∈ nodes, id ∈ reader.inputs)
    {id : Nat} (hid : id < nodes.length) : Wanted (nodes.map Node.stage) id := by
  -- What reads a node stands behind it, so the induction is on the number of nodes behind.
  induction hbehind : nodes.length - id using Nat.strongRecOn generalizing id with
  | ind behind ih =>
    have hnode := List.getElem?_eq_getElem hid
    have hplace : (nodes.map Node.stage)[id]? = some nodes[id].stage := by
      rw [List.getElem?_map, hnode, Option.map_some]
    rcases hread id _ hnode with houtput | ⟨reader, hreader, hinput⟩
    · exact .output hplace ((nodes[id].isOutput_stage).trans houtput)
    · obtain ⟨place, hat⟩ := List.mem_iff_getElem?.mp hreader
      have hstage : (nodes.map Node.stage)[place]? = some reader.stage := by
        rw [List.getElem?_map, hat, Option.map_some]
      have hinputs : id ∈ reader.stage.inputs := reader.inputs_stage ▸ hinput
      have hlt := (hlinked place reader.stage hstage).lt hinputs
      rw [List.length_take] at hlt
      obtain ⟨hend, _⟩ := List.getElem?_eq_some_iff.mp hat
      exact (ih (nodes.length - place) (by omega) hend rfl).input hstage hinputs

omit [DecidableEq β] in
/-- Where every node is an output or is read by another one, all of them are asked for. -/
theorem demanded_of_read {nodes : List (Node β)} (hlinked : IsLinked (nodes.map Node.stage))
    (hread : ∀ id node, nodes[id]? = some node →
      node.isOutput = true ∨ ∃ reader ∈ nodes, id ∈ reader.inputs) :
    demanded nodes = List.replicate nodes.length true := by
  have hlength : (demanded nodes).length = nodes.length := length_demandedAfter nodes nodes.length
  refine List.eq_replicate_iff.mpr ⟨hlength, fun mark hmark => ?_⟩
  obtain ⟨id, hid⟩ := List.mem_iff_getElem?.mp hmark
  have hlt : id < nodes.length := hlength ▸ (List.getElem?_eq_some_iff.mp hid).1
  have hmarked : (demanded nodes)[id]? = some true :=
    demandedAfter_of_wanted hlinked (wanted_of_read hlinked hread hlt) (Nat.le_add_left _ _) hlt
  exact Option.some.inj (hid.symm.trans hmarked)

/-- Behind a run that is not cancelled every node that an output depends on has just been refreshed
against the nodes in front of it. -/
theorem StageGraph.exists_refresh_of_wanted {graph : StageGraph β} {signal : Signal}
    {summary : Summary} (hok : (graph.run signal).2.2 = .ok summary)
    (hlinked : IsLinked graph.stages) {id : Nat} (hwanted : Wanted graph.stages id)
    (hlt : id < graph.nodes.length) :
    ∃ node, graph.nodes[id]? = some node ∧ (graph.run signal).1.nodes[id]? =
      some (node.refresh ((graph.run signal).1.nodes.take id)).1 := by
  have hmark : (demanded graph.nodes)[id]? = some true :=
    demandedAfter_of_wanted hlinked hwanted (Nat.le_add_left _ _) hlt
  have hnode := List.getElem?_eq_getElem hlt
  exact ⟨graph.nodes[id], hnode, StageGraph.run_ok_getElem? hok hnode hmark⟩

/-- Where refreshing makes every node exact that an output depends on, a run that is not cancelled
leaves all of them with their values from scratch. -/
theorem StageGraph.run_ok_batch? {graph : StageGraph β} {signal : Signal} {summary : Summary}
    {supply : Supply β} (hok : (graph.run signal).2.2 = .ok summary)
    (hlinked : IsLinked graph.stages)
    (hexact : ∀ (id : Nat) (node : Node β), graph.nodes[id]? = some node →
      (graph.run signal).1.nodes[id]? =
        some (node.refresh ((graph.run signal).1.nodes.take id)).1 →
      (node.refresh ((graph.run signal).1.nodes.take id)).1.IsExact supply
        ((graph.run signal).1.nodes.take id))
    {id : Nat} (hwanted : Wanted graph.stages id) :
    ((graph.run signal).1.nodes.map Node.batch?)[id]? = (scratch supply graph.stages)[id]? := by
  have hstages : (graph.run signal).1.nodes.map Node.stage = graph.stages :=
    graph.stages_run signal
  rw [← hstages] at hwanted ⊢
  refine batch?_eq_scratch (fun place next hnext hplace => ?_) hwanted
  have hlt : place < graph.nodes.length := by
    have hafter := (List.getElem?_eq_some_iff.mp hnext).1
    rwa [graph.length_run signal] at hafter
  rw [hstages] at hplace
  obtain ⟨node, hnode, hrefresh⟩ := StageGraph.exists_refresh_of_wanted hok hlinked hplace hlt
  obtain rfl := Option.some.inj (hnext.symm.trans hrefresh)
  exact hexact place node hnode hrefresh

/-- In a linked graph a node is linked to the nodes that a run has left in front of it. -/
theorem StageGraph.isLinked_run {graph : StageGraph β} (hlinked : IsLinked graph.stages)
    (signal : Signal) {id : Nat} {node : Node β} (hnode : graph.nodes[id]? = some node) :
    node.stage.IsLinked (((graph.run signal).1.nodes.take id).map Node.stage) := by
  have hstages : (graph.run signal).1.nodes.map Node.stage = graph.stages :=
    graph.stages_run signal
  rw [List.map_take, hstages]
  refine hlinked id node.stage ?_
  rw [StageGraph.stages, List.getElem?_map, hnode]
  rfl

/-- A source of a supplied graph holds what has been supplied under the number of nodes that a run
has left in front of it. -/
theorem IsSupplied.source_run {graph : StageGraph β} {supply : Supply β}
    (hsupplied : IsSupplied supply graph.nodes) (signal : Signal) {id : Nat} {node : Node β}
    (hnode : graph.nodes[id]? = some node) (kind : Kind β) (inner : SourceNode kind)
    (hinner : node = .source kind inner) : inner.slot.values =
      supply ((graph.run signal).1.nodes.take id).length kind := by
  subst hinner
  have hlength := graph.length_run signal
  obtain ⟨hid, _⟩ := List.getElem?_eq_some_iff.mp hnode
  have htake : ((graph.run signal).1.nodes.take id).length = id := by
    rw [List.length_take]
    omega
  rw [htake]
  exact hsupplied id kind inner hnode

/-- Behind a run that is not cancelled every node of a settled graph that an output depends on holds
its values from scratch. -/
theorem Settled.run_ok_batch? {admission : Admission β} {graph : StageGraph β} {signal : Signal}
    {summary : Summary} {supply : Supply β} (h : Settled admission graph.nodes)
    (hfaithful : admission.IsFaithful) (hsupplied : IsSupplied supply graph.nodes)
    (hok : (graph.run signal).2.2 = .ok summary) {id : Nat} (hwanted : Wanted graph.stages id) :
    ((graph.run signal).1.nodes.map Node.batch?)[id]? = (scratch supply graph.stages)[id]? := by
  have hafter := h.run hfaithful signal
  refine StageGraph.run_ok_batch? hok h.linked (fun place node hnode hrefresh => ?_) hwanted
  exact Node.isExact_refresh (hafter.node place _ hrefresh)
    (StageGraph.isLinked_run h.linked signal hnode) (hsupplied.source_run signal hnode)

/-- What a stage holds is found by looking at it. -/
theorem StageGraph.peek?_eq_some {graph : StageGraph β} {id : Nat} {kind : Kind β}
    {values : List kind.Val}
    (h : (graph.nodes.map Node.batch?)[id]? = some (some ⟨kind, values⟩)) :
    graph.peek? (⟨id⟩ : Values kind) = some values := by
  rw [List.getElem?_map] at h
  obtain ⟨node, hnode, hbatch⟩ := Option.map_eq_some_iff.mp h
  obtain ⟨⟨found, slot⟩, hheld, heq⟩ := Option.map_eq_some_iff.mp hbatch
  cases heq
  have hslot : slot? found graph.nodes id = some slot := slot?_eq_some.mpr ⟨node, hnode, hheld⟩
  rw [peek?, hslot]
  rfl

/-- The one value that a stage holds is found by looking at it. -/
theorem StageGraph.get?_eq_some {graph : StageGraph β} {id : Nat} {kind : Kind β} {value : kind.Val}
    (h : (graph.nodes.map Node.batch?)[id]? = some (some ⟨kind, [value]⟩)) :
    graph.get? (⟨id⟩ : Single kind) = some value := by
  obtain ⟨slot, hslot, hvalues⟩ := Option.map_eq_some_iff.mp (peek?_eq_some h)
  have hplace : slot? kind graph.nodes id = some slot := hslot
  rw [get?, hplace, Option.bind_some, hvalues]
  rfl

/-! ## First runs -/

omit [DecidableEq β] in
/-- Only the empty list counts as equal to the empty list. -/
theorem eq_of_nil_beq {kind : Kind β} {held values : List kind.Val} (hheld : held = [])
    (h : (held == values) = true) : held = values := by
  subst hheld
  cases values with
  | nil => rfl
  | cons value values => cases h

/-- A blank node that has just been refreshed is exact, whatever counts as equal. -/
theorem Node.IsBlank.isExact_refresh {supply : Supply β} {node : Node β} {front : List (Node β)}
    (hblank : node.IsBlank) (hlinked : node.stage.IsLinked (front.map Node.stage))
    (hsupply : ∀ kind inner, node = .source kind inner →
      inner.slot.values = supply front.length kind) :
    (node.refresh front).1.IsExact supply front := by
  cases node with
  | source kind inner =>
    simp [Node.refresh, Node.IsExact, Node.batch?, Node.held?, Node.stage, Stage.batch?,
      hsupply kind inner rfl]
  | output kind inner => rfl
  | map domain codomain inner =>
    obtain ⟨hseen, hmemo, hslot⟩ := hblank
    rcases MapNode.refresh_of_linked hlinked with ⟨source, hsource, ⟨hstands, _⟩ | h⟩
    · simp [hseen] at hstands
    · refine Node.isExact_map hsource ?_
      rw [h, MapNode.commit_slot, MapNode.flatMap_resultsFrom (by simp [hmemo])]
      exact Slot.update_values (eq_of_nil_beq hslot)
  | combine left right inner =>
    obtain ⟨hseen, hslot⟩ := hblank
    rcases CombineNode.refresh_of_linked hlinked.1 hlinked.2 with
      ⟨lefts, rights, hlefts, hrights, ⟨hstands, _⟩ | h⟩
    · simp [hseen] at hstands
    · refine Node.isExact_combine hlefts hrights ?_
      rw [h, CombineNode.commit_slot]
      exact Slot.update_values (eq_of_nil_beq hslot)
  | collect kind inner =>
    obtain ⟨hseen, hslot⟩ := hblank
    rcases CollectNode.refresh_of_linked hlinked with ⟨source, hsource, ⟨hstands, _⟩ | h⟩
    · simp [hseen] at hstands
    · refine Node.isExact_collect hsource ?_
      rw [h, CollectNode.commit_slot]
      exact Slot.update_values (eq_of_nil_beq hslot)

/-- Behind a first run that is not cancelled every node that an output depends on holds its values
from scratch, whatever counts as equal. -/
theorem StageGraph.first_run_ok_batch? {graph : StageGraph β} {signal : Signal} {summary : Summary}
    {supply : Supply β} (hblank : ∀ node ∈ graph.nodes, node.IsBlank)
    (hlinked : IsLinked graph.stages) (hsupplied : IsSupplied supply graph.nodes)
    (hok : (graph.run signal).2.2 = .ok summary) {id : Nat} (hwanted : Wanted graph.stages id) :
    ((graph.run signal).1.nodes.map Node.batch?)[id]? = (scratch supply graph.stages)[id]? := by
  refine StageGraph.run_ok_batch? hok hlinked (fun place node hnode _ => ?_) hwanted
  exact (hblank node (List.mem_of_getElem? hnode)).isExact_refresh
    (StageGraph.isLinked_run hlinked signal hnode) (hsupplied.source_run signal hnode)

end TemplateCodegen.Incremental
