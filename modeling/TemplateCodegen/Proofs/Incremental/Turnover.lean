import TemplateCodegen.Proofs.Incremental.Progress

/-!
# How the values of a stage change

A run refreshes every node at most once, and a refreshed node updates its slot at most once. So
behind any single operation of a host a slot is the one it was, or it has a newer version and values
that count as different. Main statement: this holds of every run, complete or cancelled
(`StageGraph.turns_run`).
-/

namespace TemplateCodegen.Incremental

/-! ## Slots -/

namespace Slot

variable {α : Type} [BEq α]

/-- A slot is left as it is, or takes values that count as different under a newer version. -/
def Turns (before after : Slot α) : Prop :=
  after = before ∨
    (before.version < after.version ∧ (before.values == after.values) = false)

/-- An update leaves the slot or gives it different values. -/
theorem turns_update (slot : Slot α) (values : List α) : slot.Turns (slot.update values).1 := by
  unfold update
  split
  · exact .inl rfl
  · rename_i hdifferent
    exact .inr ⟨Nat.lt_succ_self slot.version, eq_false_of_ne_true hdifferent⟩

/-- A slot whose values stand is the same. -/
theorem Turns.eq_of_values {before after : Slot α} (h : before.Turns after)
    (hself : (before.values == before.values) = true) (hvalues : after.values = before.values) :
    after = before := by
  rcases h with heq | ⟨_, hdifferent⟩
  · exact heq
  · rw [hvalues, hself] at hdifferent
    cases hdifferent

end Slot

variable {β : Type} [Payload β]

/-- Where every base value counts as equal to itself, so does every value. -/
theorem Kind.beq_self (hself : ∀ (b : β) (value : Payload.Carrier b), Payload.beq b value value)
    (kind : Kind β) (value : kind.Val) : (value == value) = true := by
  change kind.beq value value = true
  induction kind with
  | base b => exact hself b value
  | pair left right ihLeft ihRight =>
    exact Bool.and_eq_true_iff.mpr ⟨ihLeft value.1, ihRight value.2⟩
  | list item ih =>
    have hitems : ∀ items : List item.Val, Kind.beq.beqItems item.beq items items = true := by
      intro items
      induction items with
      | nil => rfl
      | cons first rest ihRest => exact Bool.and_eq_true_iff.mpr ⟨ih first, ihRest⟩
    exact hitems value

/-- Where every base value counts as equal to itself, so does every list of values. -/
theorem Kind.beq_self_values
    (hself : ∀ (b : β) (value : Payload.Carrier b), Payload.beq b value value) {kind : Kind β}
    (values : List kind.Val) : (values == values) = true := by
  have hlist := Kind.beq_self hself (.list kind) values
  exact (Kind.beq_list kind values values).symm.trans hlist

variable [DecidableEq β]

/-! ## Nodes -/

/-- Refreshing a node leaves its slot or gives it different values. -/
theorem Node.turns_refresh {node : Node β} {kind : Kind β} {slot : Slot kind.Val}
    (hheld : node.held? = some ⟨kind, slot⟩) (front : List (Node β)) :
    ∃ slot', (node.refresh front).1.held? = some ⟨kind, slot'⟩ ∧ slot.Turns slot' := by
  rcases node.refresh_or_evaluates front with h | h
  · exact ⟨slot, by rwa [h], .inl rfl⟩
  · obtain ⟨found, held, values, hbefore, hafter, _⟩ := h.slot
    have hsame := hheld.symm.trans hbefore
    cases hsame
    exact ⟨_, hafter, slot.turns_update values⟩

namespace StageGraph

/-- Behind every run, complete or cancelled, a node is as it was, or it is asked for and has been
refreshed once, against the nodes that are then in front of it. -/
theorem run_getElem? (graph : StageGraph β) (signal : Signal) {id : Nat} {node : Node β}
    (hnode : graph.nodes[id]? = some node) :
    (graph.run signal).1.nodes[id]? = some node ∨
      (demanded graph.nodes)[id]? = some true ∧
        (graph.run signal).1.nodes[id]? =
          some (node.refresh ((graph.run signal).1.nodes.take id)).1 := by
  obtain ⟨done, undone, hrest, hnodes, _⟩ :=
    advance_nodes [] {} (graph.nodes.zip (demanded graph.nodes)) signal
  have hafter : (graph.run signal).1.nodes = refreshAll [] done ++ undone.map Prod.fst := hnodes
  have hlength : (refreshAll [] done).length = done.length := by
    rw [length_refreshAll, List.length_nil, Nat.zero_add]
  obtain ⟨hplace, _⟩ := List.getElem?_eq_some_iff.mp hnode
  have hmarks : id < (demanded graph.nodes).length := by
    rw [demanded, length_demandedAfter]
    exact hplace
  have hentry : (done ++ undone)[id]? = some (node, (demanded graph.nodes)[id]) := by
    rw [← hrest]
    exact List.getElem?_zip_eq_some.mpr ⟨hnode, List.getElem?_eq_getElem hmarks⟩
  rw [hafter]
  by_cases hid : id < done.length
  · rw [List.getElem?_append_left hid] at hentry
    have hrefreshed := refreshAll_getElem? [] done hentry
    rw [List.length_nil, Nat.zero_add] at hrefreshed
    rw [List.getElem?_append_left (by omega), List.take_append_of_le_length (by omega),
      hrefreshed]
    cases hmark : (demanded graph.nodes)[id] with
    | false => exact .inl rfl
    | true => exact .inr ⟨hmark ▸ List.getElem?_eq_getElem hmarks, rfl⟩
  · rw [List.getElem?_append_right (by omega)] at hentry
    rw [List.getElem?_append_right (by omega), hlength, List.getElem?_map, hentry]
    exact .inl rfl

/-! ## Operations of the host -/

variable {kind : Kind β} {id : Nat} {slot : Slot kind.Val}

/-- Behind every run, complete or cancelled, a slot is the one it was or has different values. -/
theorem turns_run {graph : StageGraph β} (hslot : slot? kind graph.nodes id = some slot)
    (signal : Signal) :
    ∃ slot', slot? kind (graph.run signal).1.nodes id = some slot' ∧ slot.Turns slot' := by
  obtain ⟨node, hnode, hheld⟩ := slot?_eq_some.mp hslot
  rcases graph.run_getElem? signal hnode with hsame | ⟨_, hrefreshed⟩
  · exact ⟨slot, slot?_eq_some.mpr ⟨node, hsame, hheld⟩, .inl rfl⟩
  · obtain ⟨slot', hslot', hturns⟩ := Node.turns_refresh hheld _
    exact ⟨slot', slot?_eq_some.mpr ⟨_, hrefreshed, hslot'⟩, hturns⟩

/-- Behind supplied values a slot is the one it was or has different values. -/
theorem turns_setValues {graph : StageGraph β} (hslot : slot? kind graph.nodes id = some slot)
    (found : Kind β) (place : Nat) (values : List found.Val) :
    ∃ slot', slot? kind (graph.setValues found place values).1.nodes id = some slot' ∧
      slot.Turns slot' := by
  rcases graph.setValues_cases found place values with ⟨inner, hinner, heq⟩ | ⟨_, heq⟩
  · rw [heq]
    obtain ⟨node, hnode, hheld⟩ := slot?_eq_some.mp hslot
    by_cases hplace : place = id
    · subst hplace
      obtain rfl : Node.source found inner = node := Option.some.inj (hinner.symm.trans hnode)
      obtain ⟨hid, _⟩ := List.getElem?_eq_some_iff.mp hinner
      cases hheld
      refine ⟨(inner.slot.update values).1, slot?_eq_some.mpr ?_, inner.slot.turns_update values⟩
      exact ⟨_, List.getElem?_set_self hid, rfl⟩
    · refine ⟨slot, slot?_eq_some.mpr ⟨node, ?_, hheld⟩, .inl rfl⟩
      exact (List.getElem?_set_ne hplace).trans hnode
  · rw [heq]
    exact ⟨slot, hslot, .inl rfl⟩

/-- Nodes that are added leave what the others hold. -/
theorem slot?_of_prefix {nodes more : List (Node β)} (hkept : nodes <+: more)
    (hslot : slot? kind nodes id = some slot) : slot? kind more id = some slot := by
  obtain ⟨node, hnode, hheld⟩ := slot?_eq_some.mp hslot
  obtain ⟨added, rfl⟩ := hkept
  obtain ⟨hid, _⟩ := List.getElem?_eq_some_iff.mp hnode
  exact slot?_eq_some.mpr ⟨node, (List.getElem?_append_left hid).trans hnode, hheld⟩

end StageGraph

end TemplateCodegen.Incremental
