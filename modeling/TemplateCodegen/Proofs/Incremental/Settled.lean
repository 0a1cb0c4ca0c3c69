import TemplateCodegen.Proofs.Incremental.Scratch

/-!
# What the caches of a graph record

The values that may flow through a graph are given by an admission, and the test of equality has to
tell different admitted values apart. The invariant `Settled` says what every node may then rely on:
its recorded results are results of its function, the versions it has seen are not newer than those
of its inputs, and while they stand it is exact. Refreshing a node, supplying values and adding a
node keep the invariant, so it holds behind every run, complete or cancelled.
-/

namespace TemplateCodegen.Incremental

variable {β : Type} [Payload β]

/-! ## Admitted values and equality -/

/-- Which values of every base kind may flow through a graph. -/
abbrev Admission (β : Type) [Payload β] : Type := (b : β) → Payload.Carrier b → Prop

/-- Whether a value of a kind is made of admitted ones. -/
def Kind.Admits (admission : Admission β) : (kind : Kind β) → kind.Val → Prop
  | .base b, value => admission b value
  | .pair left right, value =>
    left.Admits admission value.1 ∧ right.Admits admission value.2
  | .list item, values =>
    let items : List item.Val := values
    ∀ value ∈ items, item.Admits admission value

/-- The test of equality tells admitted values apart. -/
def Admission.IsFaithful (admission : Admission β) : Prop :=
  ∀ (b : β) (one other : Payload.Carrier b), admission b one → admission b other →
    Payload.beq b one other = true → one = other

/-- Lists that count as equal are the same when their items that count as equal are. -/
theorem eq_of_beq_items {α : Type} [BEq α] {ones others : List α}
    (hitems : ∀ one ∈ ones, ∀ other ∈ others, (one == other) = true → one = other)
    (h : (ones == others) = true) : ones = others := by
  induction ones generalizing others with
  | nil =>
    cases others with
    | nil => rfl
    | cons other others => cases h
  | cons one ones ih =>
    cases others with
    | nil => cases h
    | cons other others =>
      obtain ⟨hfirst, hrest⟩ := Bool.and_eq_true_iff.mp h
      have hone := hitems one List.mem_cons_self other List.mem_cons_self hfirst
      have hones := ih (fun a ha b hb =>
        hitems a (List.mem_cons_of_mem one ha) b (List.mem_cons_of_mem other hb)) hrest
      rw [hone, hones]

/-- Values of a kind of lists are compared as lists are. -/
theorem Kind.beq_list (item : Kind β) (ones others : List item.Val) :
    (Kind.list item).beq ones others = (ones == others) := by
  induction ones generalizing others with
  | nil => cases others <;> rfl
  | cons one ones ih =>
    cases others with
    | nil => rfl
    | cons other others => exact congrArg (item.beq one other && ·) (ih others)

/-- Faithfulness passes from the base kinds to all kinds. -/
theorem Admission.IsFaithful.eq_of_beq {admission : Admission β} (hfaithful : admission.IsFaithful)
    {kind : Kind β} {one other : kind.Val} (hone : kind.Admits admission one)
    (hother : kind.Admits admission other) (h : (one == other) = true) : one = other := by
  change kind.beq one other = true at h
  induction kind with
  | base b => exact hfaithful b one other hone hother h
  | pair left right ihLeft ihRight =>
    obtain ⟨hl, hr⟩ := Bool.and_eq_true_iff.mp h
    exact Prod.ext (ihLeft hone.1 hother.1 hl) (ihRight hone.2 hother.2 hr)
  | list item ih =>
    exact eq_of_beq_items (fun a ha b hb hab => ih (hone a ha) (hother b hb) hab)
      ((Kind.beq_list item one other).symm.trans h)

/-- Faithfulness passes to the values of a slot. -/
theorem Admission.IsFaithful.values_eq_of_beq {admission : Admission β}
    (hfaithful : admission.IsFaithful) {kind : Kind β} {ones others : List kind.Val}
    (hones : ∀ one ∈ ones, kind.Admits admission one)
    (hothers : ∀ other ∈ others, kind.Admits admission other)
    (h : (ones == others) = true) : ones = others :=
  eq_of_beq_items (fun one hone other hother =>
    hfaithful.eq_of_beq (hones one hone) (hothers other hother)) h

/-! ## Slots -/

namespace Slot

variable {α : Type}

/-- A slot is another one, or was overwritten by it. -/
def Precedes (before after : Slot α) : Prop := after = before ∨ before.version < after.version

/-- An update leaves the slot or overwrites it. -/
theorem precedes_update [BEq α] (slot : Slot α) (values : List α) :
    slot.Precedes (slot.update values).1 := by
  unfold update
  split
  · exact .inl rfl
  · exact .inr (Nat.lt_succ_self slot.version)

/-- The slot holds the new values, unless others count as equal to them. -/
theorem update_values [BEq α] {slot : Slot α} {values : List α}
    (h : (slot.values == values) = true → slot.values = values) :
    (slot.update values).1.values = values := by
  unfold update
  split
  · rename_i hequal
    exact h hequal
  · rfl

/-- Whatever all old and all new values have in common, the values of the slot have too. -/
theorem forall_mem_update [BEq α] {slot : Slot α} {values : List α} {P : α → Prop}
    (hslot : ∀ value ∈ slot.values, P value) (hvalues : ∀ value ∈ values, P value) :
    ∀ value ∈ (slot.update values).1.values, P value := by
  unfold update
  split
  · exact hslot
  · exact hvalues

/-- A version that is not newer than the slot is not newer than what follows it. -/
theorem Precedes.version_le {before after : Slot α} (h : before.Precedes after) :
    before.version ≤ after.version := by
  rcases h with rfl | h
  · exact Nat.le_refl _
  · exact Nat.le_of_lt h

/-- A slot whose version stands is the same. -/
theorem Precedes.eq_of_version {before after : Slot α} (h : before.Precedes after)
    (hversion : after.version ≤ before.version) : after = before := by
  rcases h with heq | hlt
  · exact heq
  · omega

end Slot

/-! ## Nodes -/

/-- The function of the stage turns admitted values into admitted ones. -/
def Stage.Keeps (admission : Admission β) : Stage β → Prop
  | .map domain codomain _ fn => ∀ element, domain.Admits admission element →
    ∀ value ∈ fn.value element, codomain.Admits admission value
  | _ => True

/-- The inputs of the stage are there and give values of the kinds that it reads. -/
def Stage.IsLinked (front : List (Stage β)) : Stage β → Prop
  | .source _ => True
  | .map domain _ input _ => (front[input]?).bind Stage.kind? = some domain
  | .combine left right leftInput rightInput =>
    (front[leftInput]?).bind Stage.kind? = some left ∧
      (front[rightInput]?).bind Stage.kind? = some right
  | .collect kind input => (front[input]?).bind Stage.kind? = some kind
  | .output kind input => (front[input]?).bind Stage.kind? = some kind

/-- The inputs of a linked stage stand in front of it. -/
theorem Stage.IsLinked.lt {front : List (Stage β)} {stage : Stage β} (h : stage.IsLinked front)
    {id : Nat} (hid : id ∈ stage.inputs) : id < front.length := by
  have hplace : ∀ {input : Nat} {kind : Kind β},
      (front[input]?).bind Stage.kind? = some kind → input < front.length := by
    intro input kind hkind
    obtain ⟨stage, hstage, _⟩ := Option.bind_eq_some_iff.mp hkind
    exact (List.getElem?_eq_some_iff.mp hstage).1
  cases stage with
  | source kind => simp [inputs] at hid
  | map domain codomain input fn =>
    obtain rfl : id = input := by simpa [inputs] using hid
    exact hplace h
  | combine left right leftInput rightInput =>
    obtain rfl | rfl : id = leftInput ∨ id = rightInput := by simpa [inputs] using hid
    · exact hplace h.1
    · exact hplace h.2
  | collect kind input =>
    obtain rfl : id = input := by simpa [inputs] using hid
    exact hplace h
  | output kind input =>
    obtain rfl : id = input := by simpa [inputs] using hid
    exact hplace h

/-- All values that the node holds are admitted. -/
def Node.HoldsAdmitted (admission : Admission β) (node : Node β) : Prop :=
  ∀ held, node.held? = some held → ∀ value ∈ held.slot.values, held.kind.Admits admission value

variable [DecidableEq β]

/-- What stands in front of a node has been left or overwritten, slot by slot. -/
def Advances (front front' : List (Node β)) : Prop :=
  ∀ (kind : Kind β) (id : Nat) (slot' : Slot kind.Val), slot? kind front' id = some slot' →
    ∃ slot, slot? kind front id = some slot ∧ slot.Precedes slot'

/-- What an application of a function to every element may rely on. -/
structure MapNode.IsSettled {domain codomain : Kind β} (admission : Admission β)
    (front : List (Node β)) (node : MapNode domain codomain) : Prop where
  /-- Recorded results are results of the function. -/
  memo_value : ∀ entry ∈ node.memo, entry.2 = node.fn.value entry.1
  /-- Recorded elements are admitted. -/
  memo_admits : ∀ entry ∈ node.memo, domain.Admits admission entry.1
  /-- The version seen is not newer than the input; while it stands, the node is exact. -/
  seen : ∀ source version, slot? domain front node.source = some source →
    node.seen = some version → version ≤ source.version ∧
      (version = source.version → node.slot.values = source.values.flatMap node.fn.value)

/-- What a pairing of two inputs may rely on: the versions seen are not newer than the inputs, and
while they stand the node is exact. -/
def CombineNode.IsSettled {left right : Kind β} (front : List (Node β))
    (node : CombineNode left right) : Prop :=
  ∀ lefts rights versions, slot? left front node.leftSource = some lefts →
    slot? right front node.rightSource = some rights → node.seen = some versions →
    versions.1 ≤ lefts.version ∧ versions.2 ≤ rights.version ∧
      (versions = (lefts.version, rights.version) →
        node.slot.values = pairUp lefts.values rights.values)

/-- What a gathering of values may rely on: the version seen is not newer than the input, and while
it stands the node is exact. -/
def CollectNode.IsSettled {kind : Kind β} (front : List (Node β)) (node : CollectNode kind) :
    Prop :=
  ∀ source version, slot? kind front node.source = some source → node.seen = some version →
    version ≤ source.version ∧
      (version = source.version →
        node.slot.values = [(source.values : (Kind.list kind).Val)])

/-- What a node may rely on. -/
def Node.IsSettled (admission : Admission β) (front : List (Node β)) : Node β → Prop
  | .map _ _ node => node.IsSettled admission front
  | .combine _ _ node => node.IsSettled front
  | .collect _ node => node.IsSettled front
  | .source _ _ | .output _ _ => True

/-- A node that is settled stays so while what stands in front of it is left or overwritten. -/
theorem Node.IsSettled.advance {admission : Admission β} {front front' : List (Node β)}
    {node : Node β} (h : node.IsSettled admission front) (hadvances : Advances front front') :
    node.IsSettled admission front' := by
  cases node with
  | source kind inner => trivial
  | output kind inner => trivial
  | map domain codomain inner =>
    refine ⟨h.memo_value, h.memo_admits, fun source' version hsource' hseen => ?_⟩
    obtain ⟨source, hsource, hprecedes⟩ := hadvances domain inner.source source' hsource'
    obtain ⟨hle, hexact⟩ := h.seen source version hsource hseen
    refine ⟨Nat.le_trans hle hprecedes.version_le, fun hversion => ?_⟩
    obtain rfl := hprecedes.eq_of_version (hversion ▸ hle)
    exact hexact hversion
  | combine left right inner =>
    intro lefts' rights' versions hlefts' hrights' hseen
    obtain ⟨lefts, hlefts, hpl⟩ := hadvances left inner.leftSource lefts' hlefts'
    obtain ⟨rights, hrights, hpr⟩ := hadvances right inner.rightSource rights' hrights'
    obtain ⟨hl, hr, hexact⟩ := h lefts rights versions hlefts hrights hseen
    refine ⟨Nat.le_trans hl hpl.version_le, Nat.le_trans hr hpr.version_le, fun hversions => ?_⟩
    subst hversions
    obtain rfl := hpl.eq_of_version hl
    obtain rfl := hpr.eq_of_version hr
    exact hexact rfl
  | collect kind inner =>
    intro source' version hsource' hseen
    obtain ⟨source, hsource, hprecedes⟩ := hadvances kind inner.source source' hsource'
    obtain ⟨hle, hexact⟩ := h source version hsource hseen
    refine ⟨Nat.le_trans hle hprecedes.version_le, fun hversion => ?_⟩
    obtain rfl := hprecedes.eq_of_version (hversion ▸ hle)
    exact hexact hversion

end TemplateCodegen.Incremental
