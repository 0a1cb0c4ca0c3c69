import TemplateCodegen.Proofs.Incremental.Consistency

/-!
# How a graph goes on

Behind every operation of a host the stages are the same, every slot has been left or overwritten
under a newer version, and the mark of an output changes only when a value is taken there. So a mark
that is not newer than the slot in front of it stays so, and while it equals the version of the slot
the slot is the one that was taken.
-/

namespace TemplateCodegen.Incremental

variable {β : Type} [Payload β] [DecidableEq β]

/-- A slot behind another one behind a third. -/
theorem Slot.Precedes.trans {α : Type} {one two three : Slot α} (h : one.Precedes two)
    (h' : two.Precedes three) : one.Precedes three := by
  rcases h' with rfl | hlt'
  · exact h
  · rcases h with rfl | hlt
    · exact .inr hlt'
    · exact .inr (Nat.lt_trans hlt hlt')

/-- One graph has gone on from another: the stages are the same, and what they hold has been left or
overwritten. -/
structure StageGraph.Continues (before after : StageGraph β) : Prop where
  /-- The stages are the same. -/
  stages : after.stages = before.stages
  /-- What the stages hold has been left or overwritten. -/
  advances : Advances before.nodes after.nodes

namespace StageGraph

/-- A graph that is left as it is. -/
theorem Continues.refl (graph : StageGraph β) : graph.Continues graph :=
  ⟨rfl, fun _ _ slot hslot => ⟨slot, hslot, .inl rfl⟩⟩

/-- A graph that goes on twice. -/
theorem Continues.trans {one two three : StageGraph β} (h : one.Continues two)
    (h' : two.Continues three) : one.Continues three := by
  refine ⟨h'.stages.trans h.stages, fun kind id slot hslot => ?_⟩
  obtain ⟨between, hbetween, hprecedes'⟩ := h'.advances kind id slot hslot
  obtain ⟨first, hfirst, hprecedes⟩ := h.advances kind id between hbetween
  exact ⟨first, hfirst, hprecedes.trans hprecedes'⟩

/-- A graph goes on when one of its nodes does. -/
theorem Continues.set {graph : StageGraph β} {id : Nat} {node next : Node β}
    (hnode : graph.nodes[id]? = some node) (hstage : next.stage = node.stage)
    (hprecedes : node.Precedes next) :
    graph.Continues { graph with nodes := graph.nodes.set id next } :=
  ⟨map_stage_set hnode hstage, Advances.set hnode hprecedes⟩

/-- A graph that goes on keeps the number of its nodes. -/
theorem Continues.length_nodes {before after : StageGraph β} (h : before.Continues after) :
    after.nodes.length = before.nodes.length := by
  rw [← after.length_stages, ← before.length_stages, h.stages]

/-- A slot that a graph holds has been left or overwritten in one that has gone on from it. -/
theorem Continues.exists_slot? {before after : StageGraph β} (h : before.Continues after)
    {kind : Kind β} {id : Nat} {slot : Slot kind.Val}
    (hslot : slot? kind before.nodes id = some slot) :
    ∃ slot', slot? kind after.nodes id = some slot' ∧ slot.Precedes slot' := by
  obtain ⟨node, hnode, hheld⟩ := slot?_eq_some.mp hslot
  have hkind : ((before.nodes.map Node.stage)[id]?).bind Stage.kind? = some kind := by
    rw [List.getElem?_map, hnode, Option.map_some, Option.bind_some, Node.kind?_stage, hheld]
    rfl
  rw [show before.nodes.map Node.stage = after.nodes.map Node.stage from h.stages.symm] at hkind
  obtain ⟨slot', hslot'⟩ := exists_slot?_of_kind? hkind
  obtain ⟨found, hfound, hprecedes⟩ := h.advances kind id slot' hslot'
  obtain rfl : slot = found := Option.some.inj (hslot.symm.trans hfound)
  exact ⟨slot', hslot', hprecedes⟩

/-- Supplying values lets a graph go on. -/
theorem continues_setValues (graph : StageGraph β) (kind : Kind β) (id : Nat)
    (values : List kind.Val) : graph.Continues (graph.setValues kind id values).1 := by
  rcases graph.setValues_cases kind id values with ⟨inner, hinner, h⟩ | ⟨_, h⟩
  · rw [h]
    exact .set hinner rfl (.of_slot rfl rfl (inner.slot.precedes_update values))
  · rw [h]
    exact .refl graph

/-- A commit lets a graph go on. -/
theorem continues_commit {kind : Kind β} (graph : StageGraph β) (output : Output kind)
    (pending : Pending kind) : graph.Continues (graph.commit output pending) := by
  rcases graph.commit_cases output pending with ⟨inner, hinner, h⟩ | ⟨_, h⟩
  · rw [h]
    exact .set hinner rfl (.of_held? rfl)
  · rw [h]
    exact .refl graph

/-- Taking a value lets a graph go on. -/
theorem continues_take {kind : Kind β} (graph : StageGraph β) (output : Output kind) :
    graph.Continues (graph.take output).1 := by
  rcases graph.take_cases output with ⟨pending, _, h⟩ | ⟨_, h⟩
  · rw [h]
    exact graph.continues_commit output pending
  · rw [h]
    exact .refl graph

/-- A run lets a graph go on, complete or cancelled. -/
theorem continues_run (graph : StageGraph β) (signal : Signal) :
    graph.Continues (graph.run signal).1 := by
  refine ⟨graph.stages_run signal, ?_⟩
  refine StageGraph.run_keeps (P := fun nodes => Advances graph.nodes nodes)
    (fun nodes id node hnode hadvances kind place slot' hslot' => ?_) graph signal
    (Continues.refl graph).advances
  obtain ⟨between, hbetween, hprecedes'⟩ :=
    Advances.set hnode (node.precedes_refresh (nodes.take id)) kind place slot' hslot'
  obtain ⟨slot, hslot, hprecedes⟩ := hadvances kind place between hbetween
  exact ⟨slot, hslot, hprecedes.trans hprecedes'⟩

/-! ## Marks -/

variable {kind : Kind β} {id : Nat} {node : OutputNode kind}

/-- Supplying values leaves the marks. -/
theorem output_setValues {graph : StageGraph β} (h : graph.nodes[id]? = some (.output kind node))
    (found : Kind β) (place : Nat) (values : List found.Val) :
    (graph.setValues found place values).1.nodes[id]? = some (.output kind node) := by
  rcases graph.setValues_cases found place values with ⟨inner, hinner, heq⟩ | ⟨_, heq⟩
  · have hne : place ≠ id := by
      rintro rfl
      rw [h] at hinner
      cases hinner
    rw [heq]
    exact (List.getElem?_set_ne hne).trans h
  · rw [heq]
    exact h

/-- A run leaves the marks. -/
theorem output_run {graph : StageGraph β} (h : graph.nodes[id]? = some (.output kind node))
    (signal : Signal) : (graph.run signal).1.nodes[id]? = some (.output kind node) := by
  refine StageGraph.run_keeps (P := fun nodes => nodes[id]? = some (.output kind node))
    (fun nodes place found hfound hnodes => ?_) graph signal h
  by_cases hplace : place = id
  · subst hplace
    obtain rfl := Option.some.inj (hfound.symm.trans hnodes)
    obtain ⟨hlt, _⟩ := List.getElem?_eq_some_iff.mp hnodes
    exact List.getElem?_set_self hlt
  · exact (List.getElem?_set_ne hplace).trans hnodes

/-- A commit at another output leaves the mark. -/
theorem output_commit {graph : StageGraph β} (h : graph.nodes[id]? = some (.output kind node))
    {found : Kind β} {output : Output found} (hne : output.id ≠ id) (pending : Pending found) :
    (graph.commit output pending).nodes[id]? = some (.output kind node) := by
  rcases graph.commit_cases output pending with ⟨inner, _, heq⟩ | ⟨_, heq⟩
  · rw [heq]
    exact (List.getElem?_set_ne hne).trans h
  · rw [heq]
    exact h

/-- Taking a value at another output leaves the mark. -/
theorem output_take {graph : StageGraph β} (h : graph.nodes[id]? = some (.output kind node))
    {found : Kind β} {output : Output found} (hne : output.id ≠ id) :
    (graph.take output).1.nodes[id]? = some (.output kind node) := by
  rcases graph.take_cases output with ⟨pending, _, heq⟩ | ⟨_, heq⟩
  · rw [heq]
    exact output_commit h hne pending
  · rw [heq]
    exact h

/-- A commit marks the version of the value that was pending. -/
theorem output_commit_self {graph : StageGraph β} {output : Output kind}
    (h : graph.nodes[output.id]? = some (.output kind node)) (pending : Pending kind) :
    ∃ next : OutputNode kind, (graph.commit output pending).nodes[output.id]? =
      some (.output kind next) ∧ next.source = node.source ∧ next.taken = some pending.version := by
  rcases graph.commit_cases output pending with ⟨inner, hinner, heq⟩ | ⟨hnone, _⟩
  · obtain ⟨hlt, _⟩ := List.getElem?_eq_some_iff.mp hinner
    have hsame := hinner.symm.trans h
    cases hsame
    rw [heq]
    exact ⟨_, List.getElem?_set_self hlt, rfl, rfl⟩
  · exact absurd h (hnone node)

/-- A commit leaves what the stages hold. -/
theorem slot?_commit {found : Kind β} (graph : StageGraph β) (output : Output found)
    (pending : Pending found) (kind : Kind β) (id : Nat) :
    slot? kind (graph.commit output pending).nodes id = slot? kind graph.nodes id := by
  rcases graph.commit_cases output pending with ⟨inner, hinner, heq⟩ | ⟨_, heq⟩
  · rw [heq]
    by_cases hplace : output.id = id
    · subst hplace
      obtain ⟨hlt, _⟩ := List.getElem?_eq_some_iff.mp hinner
      unfold slot?
      rw [hinner, List.getElem?_set_self hlt]
      rfl
    · unfold slot?
      rw [List.getElem?_set_ne hplace]
  · rw [heq]

/-- Taking a value leaves what the stages hold. -/
theorem slot?_take {found : Kind β} (graph : StageGraph β) (output : Output found) (kind : Kind β)
    (id : Nat) : slot? kind (graph.take output).1.nodes id = slot? kind graph.nodes id := by
  rcases graph.take_cases output with ⟨pending, _, heq⟩ | ⟨_, heq⟩
  · rw [heq]
    exact graph.slot?_commit output pending kind id
  · rw [heq]

/-- Taking a value leaves the one values of stages. -/
theorem get?_take {found : Kind β} (graph : StageGraph β) (output : Output found)
    (single : Single kind) : (graph.take output).1.get? single = graph.get? single := by
  rw [get?, get?, graph.slot?_take output kind single.id]

/-- A commit leaves the one values of stages. -/
theorem get?_commit {found : Kind β} (graph : StageGraph β) (output : Output found)
    (pending : Pending found) (single : Single kind) :
    (graph.commit output pending).get? single = graph.get? single := by
  rw [get?, get?, graph.slot?_commit output pending kind single.id]

/-- The one value of a stage depends on its node alone. -/
theorem get?_congr {graph graph' : StageGraph β} {single : Single kind}
    (h : graph.nodes[single.id]? = graph'.nodes[single.id]?) :
    graph.get? single = graph'.get? single := by
  unfold get? slot?
  rw [h]

/-- Supplying values to one node leaves the one values of the others. -/
theorem get?_setValues_of_ne {found : Kind β} (graph : StageGraph β) {place : Nat}
    (values : List found.Val) {single : Single kind} (hne : place ≠ single.id) :
    (graph.setValues found place values).1.get? single = graph.get? single := by
  refine get?_congr ?_
  rcases graph.setValues_cases found place values with ⟨inner, _, heq⟩ | ⟨_, heq⟩
  · rw [heq]
    exact List.getElem?_set_ne hne
  · rw [heq]

/-- A commit leaves whether the last run was complete. -/
theorem isComplete_commit (graph : StageGraph β) (output : Output kind) (pending : Pending kind) :
    (graph.commit output pending).isComplete = graph.isComplete := by
  rcases graph.commit_cases output pending with ⟨inner, _, heq⟩ | ⟨_, heq⟩
  · rw [heq]
  · rw [heq]

/-- Taking a value leaves whether the last run was complete. -/
theorem isComplete_take (graph : StageGraph β) (output : Output kind) :
    (graph.take output).1.isComplete = graph.isComplete := by
  rcases graph.take_cases output with ⟨pending, _, heq⟩ | ⟨_, heq⟩
  · rw [heq]
    exact graph.isComplete_commit output pending
  · rw [heq]

omit [DecidableEq β] in
/-- An output among the stages is an output node. -/
theorem exists_output {graph : StageGraph β} {input : Nat}
    (h : graph.stages[id]? = some (.output kind input)) :
    ∃ node : OutputNode kind,
      graph.nodes[id]? = some (.output kind node) ∧ node.source = input := by
  rw [stages, List.getElem?_map] at h
  obtain ⟨found, hfound, hstage⟩ := Option.map_eq_some_iff.mp h
  cases found with
  | output given inner =>
    cases hstage
    exact ⟨inner, hfound, rfl⟩
  | source given inner => cases hstage
  | map domain codomain inner => cases hstage
  | combine left right inner => cases hstage
  | collect given inner => cases hstage

/-- The output node under a number. -/
theorem outputNode?_eq_some {graph : StageGraph β}
    (h : graph.nodes[id]? = some (.output kind node)) : graph.outputNode? kind id = some node := by
  simp [outputNode?, h]

/-- What is pending at an output behind a complete run: the value in front of it, while its version
is not marked. -/
theorem pending?_eq {graph : StageGraph β} {output : Output kind} {slot : Slot kind.Val}
    (h : graph.nodes[output.id]? = some (.output kind node))
    (hslot : slot? kind graph.nodes node.source = some slot) (hcomplete : graph.isComplete = true) :
    graph.pending? output =
      if node.taken = some slot.version then none
      else slot.values.head?.map fun value => ⟨slot.version, value⟩ := by
  simp [pending?, hcomplete, outputNode?_eq_some h, hslot]

end StageGraph

end TemplateCodegen.Incremental
