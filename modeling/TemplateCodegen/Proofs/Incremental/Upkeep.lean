import TemplateCodegen.Proofs.Incremental.Settled

/-!
# Keeping a graph settled

The invariant of a whole graph and what keeps it. Refreshing a node, supplying values and marking a
value as taken leave every stage as it is and let the slots advance; adding a node leaves those in
front alone. Main statements: runs keep the invariant (`Settled.run`), and behind a run that is not
cancelled every node that an output depends on holds its values from scratch
(`Settled.run_ok_batch?`).
-/

namespace TemplateCodegen.Incremental

variable {β : Type} [Payload β]

/-- Counting an evaluation advances the number of evaluations by one. -/
@[simp] theorem Stats.evaluations_countEvaluation (stats : Stats) (computations : Nat)
    (changed : Bool) :
    (stats.countEvaluation computations changed).evaluations = stats.evaluations + 1 := by
  cases changed <;> rfl

/-- Counting an evaluation adds its computations. -/
@[simp] theorem Stats.computations_countEvaluation (stats : Stats) (computations : Nat)
    (changed : Bool) :
    (stats.countEvaluation computations changed).computations =
      stats.computations + computations := by
  cases changed <;> rfl

namespace MapNode

variable {domain codomain : Kind β} (node : MapNode domain codomain) (source : Slot domain.Val)
  (results : List (List codomain.Val × Bool))

/-- A commit leaves the input. -/
@[simp] theorem commit_source : (node.commit source results).1.source = node.source := rfl

/-- A commit leaves the function. -/
@[simp] theorem commit_fn : (node.commit source results).1.fn = node.fn := rfl

/-- A commit records the version of the input. -/
@[simp] theorem commit_seen : (node.commit source results).1.seen = some source.version := rfl

/-- A commit records the elements with their results. -/
@[simp] theorem commit_memo : (node.commit source results).1.memo =
    source.values.zip (results.map Prod.fst) := rfl

/-- A commit puts the results into the slot. -/
@[simp] theorem commit_slot : (node.commit source results).1.slot =
    (node.slot.update (results.flatMap Prod.fst)).1 := rfl

end MapNode

namespace CombineNode

variable {left right : Kind β} (node : CombineNode left right) (lefts : Slot left.Val)
  (rights : Slot right.Val)

/-- The pairs of two slots are the pairs of their values. -/
theorem pairs_eq_pairUp : pairs lefts rights = pairUp lefts.values rights.values := by
  unfold pairs
  cases rights.values <;> rfl

/-- A commit leaves the first input. -/
@[simp] theorem commit_leftSource : (node.commit lefts rights).1.leftSource = node.leftSource := rfl

/-- A commit leaves the second input. -/
@[simp] theorem commit_rightSource :
    (node.commit lefts rights).1.rightSource = node.rightSource := rfl

/-- A commit records the versions of the inputs. -/
@[simp] theorem commit_seen :
    (node.commit lefts rights).1.seen = some (lefts.version, rights.version) := rfl

/-- A commit puts the pairs into the slot. -/
@[simp] theorem commit_slot : (node.commit lefts rights).1.slot =
    (node.slot.update (pairUp lefts.values rights.values)).1 := by
  rw [← pairs_eq_pairUp]
  rfl

end CombineNode

namespace CollectNode

variable {kind : Kind β} (node : CollectNode kind) (source : Slot kind.Val)

/-- A commit leaves the input. -/
@[simp] theorem commit_source : (node.commit source).1.source = node.source := rfl

/-- A commit records the version of the input. -/
@[simp] theorem commit_seen : (node.commit source).1.seen = some source.version := rfl

/-- A commit puts the list into the slot. -/
@[simp] theorem commit_slot : (node.commit source).1.slot =
    (node.slot.update [(source.values : (Kind.list kind).Val)]).1 := rfl

end CollectNode

variable [DecidableEq β]

/-! ## Reading slots -/

/-- A slot is found under a kind when it is of that kind. -/
theorem KindedSlot.ofKind?_eq_some {kind : Kind β} {held : KindedSlot β} {slot : Slot kind.Val} :
    held.ofKind? kind = some slot ↔ held = ⟨kind, slot⟩ := by
  obtain ⟨found, inner⟩ := held
  unfold KindedSlot.ofKind?
  constructor
  · intro h
    split at h
    · rename_i heq
      cases heq
      cases h
      rfl
    · cases h
  · intro h
    cases h
    simp

/-- A batch is found under a kind when it is of that kind. -/
theorem Batch.ofKind?_eq_some {kind : Kind β} {batch : Batch β} {values : List kind.Val} :
    batch.ofKind? kind = some values ↔ batch = ⟨kind, values⟩ := by
  obtain ⟨found, inner⟩ := batch
  unfold Batch.ofKind?
  constructor
  · intro h
    split at h
    · rename_i heq
      cases heq
      cases h
      rfl
    · cases h
  · intro h
    cases h
    simp

/-- The slot that is read is the one that the node under the number holds. -/
theorem slot?_eq_some {kind : Kind β} {nodes : List (Node β)} {id : Nat} {slot : Slot kind.Val} :
    slot? kind nodes id = some slot ↔
      ∃ node, nodes[id]? = some node ∧ node.held? = some ⟨kind, slot⟩ := by
  simp only [slot?, Option.bind_eq_some_iff, KindedSlot.ofKind?_eq_some]
  constructor
  · rintro ⟨node, hnode, held, hheld, rfl⟩
    exact ⟨node, hnode, hheld⟩
  · rintro ⟨node, hnode, hheld⟩
    exact ⟨node, hnode, _, hheld, rfl⟩

/-- The values that are read are those under the number. -/
theorem valuesIn?_eq_some {kind : Kind β} {batches : List (Option (Batch β))} {id : Nat}
    {values : List kind.Val} :
    valuesIn? kind batches id = some values ↔ batches[id]? = some (some ⟨kind, values⟩) := by
  simp only [valuesIn?, Option.bind_eq_some_iff, Batch.ofKind?_eq_some, Option.join_eq_some_iff]
  constructor
  · rintro ⟨batch, hbatch, rfl⟩
    exact hbatch
  · intro h
    exact ⟨_, h, rfl⟩

/-- Where a slot is read, its values are. -/
theorem valuesIn?_of_slot? {kind : Kind β} {nodes : List (Node β)} {id : Nat}
    {slot : Slot kind.Val} (h : slot? kind nodes id = some slot) :
    valuesIn? kind (nodes.map Node.batch?) id = some slot.values := by
  obtain ⟨node, hnode, hheld⟩ := slot?_eq_some.mp h
  refine valuesIn?_eq_some.mpr ?_
  simp [hnode, Node.batch?, hheld]

omit [DecidableEq β] in
/-- A node holds values of the kind that its stage gives. -/
theorem Node.kind?_stage (node : Node β) : node.stage.kind? = node.held?.map KindedSlot.kind := by
  cases node <;> rfl

/-- Behind a stage of the kind a slot of the kind is read. -/
theorem exists_slot?_of_kind? {kind : Kind β} {nodes : List (Node β)} {id : Nat}
    (h : ((nodes.map Node.stage)[id]?).bind Stage.kind? = some kind) :
    ∃ slot, slot? kind nodes id = some slot := by
  obtain ⟨stage, hstage, hkind⟩ := Option.bind_eq_some_iff.mp h
  rw [List.getElem?_map] at hstage
  obtain ⟨node, hnode, rfl⟩ := Option.map_eq_some_iff.mp hstage
  rw [Node.kind?_stage] at hkind
  obtain ⟨held, hheld, rfl⟩ := Option.map_eq_some_iff.mp hkind
  exact ⟨held.slot, slot?_eq_some.mpr ⟨node, hnode, hheld⟩⟩

/-! ## One refreshed node -/

/-- Refreshing an application of a function changes it only when its input is there and has a
version that has not been seen. -/
theorem MapNode.refresh_cases {domain codomain : Kind β} (node : MapNode domain codomain)
    (front : List (Node β)) :
    (slot? domain front node.source = none ∧ node.refresh front = (node, false)) ∨
      ∃ source, slot? domain front node.source = some source ∧
        ((node.seen = some source.version ∧ node.refresh front = (node, false)) ∨
          (node.seen ≠ some source.version ∧
            node.refresh front = node.commit source (node.resultsFrom 0 source.values))) := by
  unfold MapNode.refresh
  cases slot? domain front node.source with
  | none => exact .inl ⟨rfl, rfl⟩
  | some source =>
    by_cases hseen : node.seen = some source.version
    · exact .inr ⟨source, rfl, .inl ⟨hseen, if_pos hseen⟩⟩
    · exact .inr ⟨source, rfl, .inr ⟨hseen, if_neg hseen⟩⟩

/-- Refreshing a pairing changes it only when its inputs are there and have versions that have not
been seen. -/
theorem CombineNode.refresh_cases {left right : Kind β} (node : CombineNode left right)
    (front : List (Node β)) :
    ((∀ lefts rights, slot? left front node.leftSource = some lefts →
        slot? right front node.rightSource ≠ some rights) ∧
        node.refresh front = (node, false)) ∨
      ∃ lefts rights, slot? left front node.leftSource = some lefts ∧
        slot? right front node.rightSource = some rights ∧
        ((node.seen = some (lefts.version, rights.version) ∧
            node.refresh front = (node, false)) ∨
          (node.seen ≠ some (lefts.version, rights.version) ∧
            node.refresh front = node.commit lefts rights)) := by
  unfold CombineNode.refresh
  cases slot? left front node.leftSource with
  | none => exact .inl ⟨fun _ _ h => by simp at h, rfl⟩
  | some lefts =>
    cases slot? right front node.rightSource with
    | none => exact .inl ⟨fun _ _ _ h => by simp at h, rfl⟩
    | some rights =>
      by_cases hseen : node.seen = some (lefts.version, rights.version)
      · exact .inr ⟨lefts, rights, rfl, rfl, .inl ⟨hseen, if_pos hseen⟩⟩
      · exact .inr ⟨lefts, rights, rfl, rfl, .inr ⟨hseen, if_neg hseen⟩⟩

/-- Refreshing a gathering changes it only when its input is there and has a version that has not
been seen. -/
theorem CollectNode.refresh_cases {kind : Kind β} (node : CollectNode kind)
    (front : List (Node β)) :
    (slot? kind front node.source = none ∧ node.evaluate front = (node, false)) ∨
      ∃ source, slot? kind front node.source = some source ∧
        ((node.seen = some source.version ∧ node.evaluate front = (node, false)) ∨
          (node.seen ≠ some source.version ∧ node.evaluate front = node.commit source)) := by
  unfold CollectNode.evaluate
  cases slot? kind front node.source with
  | none => exact .inl ⟨rfl, rfl⟩
  | some source =>
    by_cases hseen : node.seen = some source.version
    · exact .inr ⟨source, rfl, .inl ⟨hseen, if_pos hseen⟩⟩
    · exact .inr ⟨source, rfl, .inr ⟨hseen, if_neg hseen⟩⟩

/-- A linked application of a function has seen its input or is evaluated. -/
theorem MapNode.refresh_of_linked {domain codomain : Kind β} {node : MapNode domain codomain}
    {front : List (Node β)}
    (h : ((front.map Node.stage)[node.source]?).bind Stage.kind? = some domain) :
    ∃ source, slot? domain front (node.refresh front).1.source = some source ∧
      ((node.seen = some source.version ∧ node.refresh front = (node, false)) ∨
        node.refresh front = node.commit source (node.resultsFrom 0 source.values)) := by
  obtain ⟨source, hsource⟩ := exists_slot?_of_kind? h
  rcases node.refresh_cases front with ⟨hnone, _⟩ | ⟨found, hfound, ⟨hseen, heq⟩ | ⟨_, heq⟩⟩
  · rw [hsource] at hnone
    cases hnone
  · exact ⟨found, by rwa [heq], .inl ⟨hseen, heq⟩⟩
  · exact ⟨found, by rwa [heq], .inr heq⟩

/-- A linked pairing has seen its inputs or is evaluated. -/
theorem CombineNode.refresh_of_linked {left right : Kind β} {node : CombineNode left right}
    {front : List (Node β)}
    (hleft : ((front.map Node.stage)[node.leftSource]?).bind Stage.kind? = some left)
    (hright : ((front.map Node.stage)[node.rightSource]?).bind Stage.kind? = some right) :
    ∃ lefts rights, slot? left front (node.refresh front).1.leftSource = some lefts ∧
      slot? right front (node.refresh front).1.rightSource = some rights ∧
      ((node.seen = some (lefts.version, rights.version) ∧ node.refresh front = (node, false)) ∨
        node.refresh front = node.commit lefts rights) := by
  obtain ⟨lefts, hlefts⟩ := exists_slot?_of_kind? hleft
  obtain ⟨rights, hrights⟩ := exists_slot?_of_kind? hright
  rcases node.refresh_cases front with
    ⟨hnone, _⟩ | ⟨lefts', rights', hl, hr, ⟨hseen, heq⟩ | ⟨_, heq⟩⟩
  · exact absurd hrights (hnone lefts rights hlefts)
  · exact ⟨lefts', rights', by rwa [heq], by rwa [heq], .inl ⟨hseen, heq⟩⟩
  · exact ⟨lefts', rights', by rwa [heq], by rwa [heq], .inr heq⟩

/-- A linked gathering has seen its input or is evaluated. -/
theorem CollectNode.refresh_of_linked {kind : Kind β} {node : CollectNode kind}
    {front : List (Node β)}
    (h : ((front.map Node.stage)[node.source]?).bind Stage.kind? = some kind) :
    ∃ source, slot? kind front (node.evaluate front).1.source = some source ∧
      ((node.seen = some source.version ∧ node.evaluate front = (node, false)) ∨
        node.evaluate front = node.commit source) := by
  obtain ⟨source, hsource⟩ := exists_slot?_of_kind? h
  rcases node.refresh_cases front with ⟨hnone, _⟩ | ⟨found, hfound, ⟨hseen, heq⟩ | ⟨_, heq⟩⟩
  · rw [hsource] at hnone
    cases hnone
  · exact ⟨found, by rwa [heq], .inl ⟨hseen, heq⟩⟩
  · exact ⟨found, by rwa [heq], .inr heq⟩

omit [DecidableEq β] in
/-- The results of an evaluation are those of the function, when what was recorded for an element
that counts as equal is the value of the element itself. -/
theorem MapNode.flatMap_resultsFrom {domain codomain : Kind β} {node : MapNode domain codomain}
    {elements : List domain.Val}
    (hmemo : ∀ element ∈ elements, ∀ entry ∈ node.memo, (entry.1 == element) = true →
      entry.2 = node.fn.value element) :
    (node.resultsFrom 0 elements).flatMap Prod.fst = elements.flatMap node.fn.value := by
  rw [List.flatMap_def, MapNode.resultsFrom_fst hmemo 0, ← List.flatMap_def]

omit [DecidableEq β] in
/-- An evaluation records the results of the function, under the same condition. -/
theorem MapNode.commit_memo_value {domain codomain : Kind β} {node : MapNode domain codomain}
    {source : Slot domain.Val}
    (hmemo : ∀ element ∈ source.values, ∀ entry ∈ node.memo, (entry.1 == element) = true →
      entry.2 = node.fn.value element) :
    ∀ entry ∈ (node.commit source (node.resultsFrom 0 source.values)).1.memo,
      entry.1 ∈ source.values ∧ entry.2 = node.fn.value entry.1 := by
  intro entry hentry
  rw [MapNode.commit_memo, MapNode.resultsFrom_fst hmemo 0] at hentry
  obtain ⟨index, hindex⟩ := List.mem_iff_getElem?.mp hentry
  obtain ⟨hfirst, hsecond⟩ := List.getElem?_zip_eq_some.mp hindex
  rw [List.getElem?_map, hfirst] at hsecond
  exact ⟨List.mem_of_getElem? hfirst, (Option.some.inj hsecond).symm⟩

/-- An application of a function that holds the values of its input under the function is exact. -/
theorem Node.isExact_map {supply : Supply β} {front : List (Node β)} {domain codomain : Kind β}
    {node : MapNode domain codomain} {source : Slot domain.Val}
    (hsource : slot? domain front node.source = some source)
    (h : node.slot.values = source.values.flatMap node.fn.value) :
    (Node.map domain codomain node).IsExact supply front := by
  simp [Node.IsExact, Node.batch?, Node.held?, Node.stage, Stage.batch?,
    valuesIn?_of_slot? hsource, h]

/-- A pairing that holds the pairs of its inputs is exact. -/
theorem Node.isExact_combine {supply : Supply β} {front : List (Node β)} {left right : Kind β}
    {node : CombineNode left right} {lefts : Slot left.Val} {rights : Slot right.Val}
    (hlefts : slot? left front node.leftSource = some lefts)
    (hrights : slot? right front node.rightSource = some rights)
    (h : node.slot.values = pairUp lefts.values rights.values) :
    (Node.combine left right node).IsExact supply front := by
  simp [Node.IsExact, Node.batch?, Node.held?, Node.stage, Stage.batch?,
    valuesIn?_of_slot? hlefts, valuesIn?_of_slot? hrights, h]

/-- A gathering that holds the list of its input is exact. -/
theorem Node.isExact_collect {supply : Supply β} {front : List (Node β)} {kind : Kind β}
    {node : CollectNode kind} {source : Slot kind.Val}
    (hsource : slot? kind front node.source = some source)
    (h : node.slot.values = [(source.values : (Kind.list kind).Val)]) :
    (Node.collect kind node).IsExact supply front := by
  simp only [Node.IsExact, Node.batch?, Node.held?, Node.stage, Stage.batch?,
    valuesIn?_of_slot? hsource, Option.map_some, h]
  rfl

/-- A node has been evaluated once: it computes what it did, the evaluation is counted, and its slot
has been updated. -/
structure Node.Evaluates (before after : Node β) (changed : Bool) : Prop where
  /-- The node computes what it did. -/
  stage : after.stage = before.stage
  /-- The evaluation is counted. -/
  evaluations : after.stats.evaluations = before.stats.evaluations + 1
  /-- The slot has been updated, and a change is reported when the update reports one. -/
  slot : ∃ kind slot values, before.held? = some ⟨kind, slot⟩ ∧
    after.held? = some ⟨kind, (slot.update values).1⟩ ∧ changed = (slot.update values).2

/-- Refreshing a node leaves it or evaluates it once. -/
theorem Node.refresh_or_evaluates (node : Node β) (front : List (Node β)) :
    node.refresh front = (node, false) ∨
      node.Evaluates (node.refresh front).1 (node.refresh front).2 := by
  cases node with
  | source kind inner => exact .inl rfl
  | output kind inner => exact .inl rfl
  | map domain codomain inner =>
    rcases inner.refresh_cases front with ⟨_, h⟩ | ⟨source, _, ⟨_, h⟩ | ⟨_, h⟩⟩
    · exact .inl (by simp only [Node.refresh, h])
    · exact .inl (by simp only [Node.refresh, h])
    · simp only [Node.refresh, h]
      exact .inr ⟨rfl, Stats.evaluations_countEvaluation .., codomain, inner.slot, _, rfl, rfl, rfl⟩
  | combine left right inner =>
    rcases inner.refresh_cases front with ⟨_, h⟩ | ⟨lefts, rights, _, _, ⟨_, h⟩ | ⟨_, h⟩⟩
    · exact .inl (by simp only [Node.refresh, h])
    · exact .inl (by simp only [Node.refresh, h])
    · simp only [Node.refresh, h]
      exact .inr ⟨rfl, Stats.evaluations_countEvaluation .., .pair left right, inner.slot, _, rfl,
        rfl, rfl⟩
  | collect kind inner =>
    rcases inner.refresh_cases front with ⟨_, h⟩ | ⟨source, _, ⟨_, h⟩ | ⟨_, h⟩⟩
    · exact .inl (by simp only [Node.refresh, h])
    · exact .inl (by simp only [Node.refresh, h])
    · simp only [Node.refresh, h]
      exact .inr ⟨rfl, Stats.evaluations_countEvaluation .., .list kind, inner.slot, _, rfl, rfl,
        rfl⟩

/-- Refreshing a node leaves its stage. -/
theorem Node.stage_refresh (node : Node β) (front : List (Node β)) :
    (node.refresh front).1.stage = node.stage := by
  rcases node.refresh_or_evaluates front with h | h
  · rw [h]
  · exact h.stage

/-- What a node holds has been left or overwritten. -/
def Node.Precedes (before after : Node β) : Prop :=
  ∀ (kind : Kind β) (slot' : Slot kind.Val), after.held? = some ⟨kind, slot'⟩ →
    ∃ slot, before.held? = some ⟨kind, slot⟩ ∧ slot.Precedes slot'

omit [DecidableEq β] in
/-- A node that holds what it held precedes itself. -/
theorem Node.Precedes.of_held? {before after : Node β} (h : after.held? = before.held?) :
    before.Precedes after :=
  fun _ slot' hheld => ⟨slot', h ▸ hheld, .inl rfl⟩

omit [DecidableEq β] in
/-- A node that has overwritten its slot, or left it, is preceded by what it was. -/
theorem Node.Precedes.of_slot {before after : Node β} {kind : Kind β} {slot slot' : Slot kind.Val}
    (hbefore : before.held? = some ⟨kind, slot⟩) (hafter : after.held? = some ⟨kind, slot'⟩)
    (h : slot.Precedes slot') : before.Precedes after := by
  intro found inner hheld
  rw [hafter] at hheld
  cases hheld
  exact ⟨slot, hbefore, h⟩

/-- Refreshing a node leaves or overwrites what it holds. -/
theorem Node.precedes_refresh (node : Node β) (front : List (Node β)) :
    node.Precedes (node.refresh front).1 := by
  rcases node.refresh_or_evaluates front with h | h
  · exact .of_held? (by rw [h])
  · obtain ⟨kind, slot, values, hbefore, hafter, _⟩ := h.slot
    exact .of_slot hbefore hafter (slot.precedes_update values)

section Admitted

variable {admission : Admission β}

/-- The values that are read are admitted. -/
theorem admits_of_slot? {front : List (Node β)} (hfront : ∀ node ∈ front,
    node.HoldsAdmitted admission) {kind : Kind β} {id : Nat} {slot : Slot kind.Val}
    (h : slot? kind front id = some slot) : ∀ value ∈ slot.values, kind.Admits admission value := by
  obtain ⟨node, hnode, hheld⟩ := slot?_eq_some.mp h
  exact hfront node (List.mem_of_getElem? hnode) ⟨kind, slot⟩ hheld

omit [DecidableEq β] in
/-- The function of a stage that keeps the admission gives admitted values for admitted ones. -/
theorem Stage.Keeps.flatMap {domain codomain : Kind β} {input : Nat}
    {fn : StageFn domain.Val codomain.Val}
    (h : (Stage.map domain codomain input fn).Keeps admission) {values : List domain.Val}
    (hvalues : ∀ value ∈ values, domain.Admits admission value) :
    ∀ value ∈ values.flatMap fn.value, codomain.Admits admission value := by
  intro value hvalue
  obtain ⟨element, helement, hresult⟩ := List.mem_flatMap.mp hvalue
  exact h element (hvalues element helement) value hresult

omit [DecidableEq β] in
/-- Pairs of admitted values are admitted. -/
theorem admits_pairUp {left right : Kind β} {lefts : List left.Val} {rights : List right.Val}
    (hlefts : ∀ value ∈ lefts, left.Admits admission value)
    (hrights : ∀ value ∈ rights, right.Admits admission value) :
    ∀ value ∈ pairUp lefts rights, (Kind.pair left right).Admits admission value := by
  intro value hvalue
  cases rights with
  | nil => simp [pairUp] at hvalue
  | cons partner rest =>
    obtain ⟨element, helement, rfl⟩ := List.mem_map.mp hvalue
    exact ⟨hlefts element helement, hrights partner List.mem_cons_self⟩

/-- What was recorded for an element that counts as equal to an admitted one is the value of that
one. -/
theorem MapNode.IsSettled.entry_eq {domain codomain : Kind β} {node : MapNode domain codomain}
    {front : List (Node β)} (hsettled : node.IsSettled admission front)
    (hfaithful : admission.IsFaithful) {elements : List domain.Val}
    (helements : ∀ element ∈ elements, domain.Admits admission element) :
    ∀ element ∈ elements, ∀ entry ∈ node.memo, (entry.1 == element) = true →
      entry.2 = node.fn.value element := by
  intro element helement entry hentry hequal
  have heq := hfaithful.eq_of_beq (hsettled.memo_admits entry hentry) (helements element helement)
    hequal
  rw [← heq]
  exact hsettled.memo_value entry hentry

/-- What a refreshed node holds is made of admitted values, when what it held and what it reads is.
-/
theorem Node.HoldsAdmitted.refresh {node : Node β} {front : List (Node β)}
    (hfaithful : admission.IsFaithful) (hnode : node.HoldsAdmitted admission)
    (hsettled : node.IsSettled admission front) (hkeeps : node.stage.Keeps admission)
    (hfront : ∀ other ∈ front, other.HoldsAdmitted admission) :
    (node.refresh front).1.HoldsAdmitted admission := by
  cases node with
  | source kind inner => exact hnode
  | output kind inner => exact hnode
  | map domain codomain inner =>
    rcases inner.refresh_cases front with ⟨_, h⟩ | ⟨source, hsource, ⟨_, h⟩ | ⟨_, h⟩⟩
    · simpa [Node.refresh, h] using hnode
    · simpa [Node.refresh, h] using hnode
    · have hadmits := admits_of_slot? hfront hsource
      have hresults := MapNode.flatMap_resultsFrom (hsettled.entry_eq hfaithful hadmits)
      rintro held hheld
      simp only [Node.refresh, h, Node.held?, Option.some.injEq] at hheld
      subst hheld
      rw [MapNode.commit_slot, hresults]
      exact Slot.forall_mem_update (hnode ⟨codomain, inner.slot⟩ rfl)
        (hkeeps.flatMap hadmits)
  | combine left right inner =>
    rcases inner.refresh_cases front with ⟨_, h⟩ | ⟨lefts, rights, hlefts, hrights, ⟨_, h⟩ | ⟨_, h⟩⟩
    · simpa [Node.refresh, h] using hnode
    · simpa [Node.refresh, h] using hnode
    · rintro held hheld
      simp only [Node.refresh, h, Node.held?, Option.some.injEq] at hheld
      subst hheld
      rw [CombineNode.commit_slot]
      exact Slot.forall_mem_update (hnode ⟨.pair left right, inner.slot⟩ rfl)
        (admits_pairUp (admits_of_slot? hfront hlefts) (admits_of_slot? hfront hrights))
  | collect kind inner =>
    rcases inner.refresh_cases front with ⟨_, h⟩ | ⟨source, hsource, ⟨_, h⟩ | ⟨_, h⟩⟩
    · simpa [Node.refresh, h] using hnode
    · simpa [Node.refresh, h] using hnode
    · rintro held hheld
      simp only [Node.refresh, h, Node.held?, Option.some.injEq] at hheld
      subst hheld
      rw [CollectNode.commit_slot]
      refine Slot.forall_mem_update (hnode ⟨.list kind, inner.slot⟩ rfl) fun value hvalue => ?_
      obtain rfl := List.mem_singleton.mp hvalue
      exact admits_of_slot? hfront hsource

/-- An application of a function that has just been evaluated is settled. -/
theorem MapNode.IsSettled.commit {domain codomain : Kind β} {node : MapNode domain codomain}
    {front : List (Node β)} {source : Slot domain.Val} (hsettled : node.IsSettled admission front)
    (hfaithful : admission.IsFaithful)
    (hkeeps : (Stage.map domain codomain node.source node.fn).Keeps admission)
    (hsource : slot? domain front node.source = some source)
    (hadmits : ∀ value ∈ source.values, domain.Admits admission value)
    (hheld : ∀ value ∈ node.slot.values, codomain.Admits admission value) :
    (node.commit source (node.resultsFrom 0 source.values)).1.IsSettled admission front := by
  have hmemo := hsettled.entry_eq hfaithful hadmits
  have hrecorded := MapNode.commit_memo_value hmemo
  refine ⟨fun entry hentry => (hrecorded entry hentry).2,
    fun entry hentry => hadmits entry.1 (hrecorded entry hentry).1, ?_⟩
  intro found version hfound hversion
  obtain rfl : source = found := Option.some.inj (hsource.symm.trans hfound)
  obtain rfl : source.version = version := Option.some.inj hversion
  refine ⟨Nat.le_refl _, fun _ => ?_⟩
  rw [MapNode.commit_slot, MapNode.flatMap_resultsFrom hmemo]
  exact Slot.update_values (hfaithful.values_eq_of_beq hheld (hkeeps.flatMap hadmits))

/-- A pairing that has just been evaluated is settled. -/
theorem CombineNode.isSettled_commit {left right : Kind β} {node : CombineNode left right}
    {front : List (Node β)} {lefts : Slot left.Val} {rights : Slot right.Val}
    (hfaithful : admission.IsFaithful) (hlefts : slot? left front node.leftSource = some lefts)
    (hrights : slot? right front node.rightSource = some rights)
    (hadmits : ∀ value ∈ pairUp lefts.values rights.values,
      (Kind.pair left right).Admits admission value)
    (hheld : ∀ value ∈ node.slot.values, (Kind.pair left right).Admits admission value) :
    (node.commit lefts rights).1.IsSettled front := by
  intro lefts' rights' versions hlefts' hrights' hversions
  obtain rfl : lefts = lefts' := Option.some.inj (hlefts.symm.trans hlefts')
  obtain rfl : rights = rights' := Option.some.inj (hrights.symm.trans hrights')
  obtain rfl : (lefts.version, rights.version) = versions := Option.some.inj hversions
  refine ⟨Nat.le_refl _, Nat.le_refl _, fun _ => ?_⟩
  rw [CombineNode.commit_slot]
  exact Slot.update_values (hfaithful.values_eq_of_beq hheld hadmits)

/-- A gathering that has just been evaluated is settled. -/
theorem CollectNode.isSettled_commit {kind : Kind β} {node : CollectNode kind}
    {front : List (Node β)} {source : Slot kind.Val} (hfaithful : admission.IsFaithful)
    (hsource : slot? kind front node.source = some source)
    (hadmits : ∀ value ∈ source.values, kind.Admits admission value)
    (hheld : ∀ value ∈ node.slot.values, (Kind.list kind).Admits admission value) :
    (node.commit source).1.IsSettled front := by
  intro found version hfound hversion
  obtain rfl : source = found := Option.some.inj (hsource.symm.trans hfound)
  obtain rfl : source.version = version := Option.some.inj hversion
  refine ⟨Nat.le_refl _, fun _ => ?_⟩
  rw [CollectNode.commit_slot]
  refine Slot.update_values (hfaithful.values_eq_of_beq hheld fun value hvalue => ?_)
  obtain rfl := List.mem_singleton.mp hvalue
  exact hadmits

/-- A refreshed node is settled. -/
theorem Node.IsSettled.refresh {node : Node β} {front : List (Node β)}
    (hsettled : node.IsSettled admission front) (hfaithful : admission.IsFaithful)
    (hnode : node.HoldsAdmitted admission) (hkeeps : node.stage.Keeps admission)
    (hfront : ∀ other ∈ front, other.HoldsAdmitted admission) :
    (node.refresh front).1.IsSettled admission front := by
  cases node with
  | source kind inner => trivial
  | output kind inner => trivial
  | map domain codomain inner =>
    rcases inner.refresh_cases front with ⟨_, h⟩ | ⟨source, hsource, ⟨_, h⟩ | ⟨_, h⟩⟩
    · simpa [Node.refresh, h] using hsettled
    · simpa [Node.refresh, h] using hsettled
    · simp only [Node.refresh, h]
      exact MapNode.IsSettled.commit hsettled hfaithful hkeeps hsource
        (admits_of_slot? hfront hsource) (hnode ⟨codomain, inner.slot⟩ rfl)
  | combine left right inner =>
    rcases inner.refresh_cases front with ⟨_, h⟩ | ⟨lefts, rights, hlefts, hrights, ⟨_, h⟩ | ⟨_, h⟩⟩
    · simpa [Node.refresh, h] using hsettled
    · simpa [Node.refresh, h] using hsettled
    · simp only [Node.refresh, h]
      have hadmits := admits_pairUp (admits_of_slot? hfront hlefts) (admits_of_slot? hfront hrights)
      exact CombineNode.isSettled_commit hfaithful hlefts hrights hadmits
        (hnode ⟨.pair left right, inner.slot⟩ rfl)
  | collect kind inner =>
    rcases inner.refresh_cases front with ⟨_, h⟩ | ⟨source, hsource, ⟨_, h⟩ | ⟨_, h⟩⟩
    · simpa [Node.refresh, h] using hsettled
    · simpa [Node.refresh, h] using hsettled
    · simp only [Node.refresh, h]
      exact CollectNode.isSettled_commit hfaithful hsource (admits_of_slot? hfront hsource)
        (hnode ⟨.list kind, inner.slot⟩ rfl)

end Admitted

/-- A settled node that has just been refreshed is exact. -/
theorem Node.isExact_refresh {admission : Admission β} {supply : Supply β} {node : Node β}
    {front : List (Node β)} (hsettled : (node.refresh front).1.IsSettled admission front)
    (hlinked : node.stage.IsLinked (front.map Node.stage))
    (hsupply : ∀ kind inner, node = .source kind inner →
      inner.slot.values = supply front.length kind) :
    (node.refresh front).1.IsExact supply front := by
  cases node with
  | source kind inner =>
    simp [Node.refresh, Node.IsExact, Node.batch?, Node.held?, Node.stage, Stage.batch?,
      hsupply kind inner rfl]
  | output kind inner => rfl
  | map domain codomain inner =>
    obtain ⟨source, hsource, hcase⟩ := MapNode.refresh_of_linked hlinked
    refine Node.isExact_map hsource ((hsettled.seen source _ hsource ?_).2 rfl)
    rcases hcase with ⟨hseen, h⟩ | h
    · simpa [h] using hseen
    · simp [h]
  | combine left right inner =>
    obtain ⟨lefts, rights, hlefts, hrights, hcase⟩ :=
      CombineNode.refresh_of_linked hlinked.1 hlinked.2
    refine Node.isExact_combine hlefts hrights ((hsettled lefts rights _ hlefts hrights ?_).2.2 rfl)
    rcases hcase with ⟨hseen, h⟩ | h
    · simpa [h] using hseen
    · simp [h]
  | collect kind inner =>
    obtain ⟨source, hsource, hcase⟩ := CollectNode.refresh_of_linked hlinked
    refine Node.isExact_collect hsource ((hsettled source _ hsource ?_).2 rfl)
    rcases hcase with ⟨hseen, h⟩ | h
    · simpa [h] using hseen
    · simp [h]

end TemplateCodegen.Incremental
