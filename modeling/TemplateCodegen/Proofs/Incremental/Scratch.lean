import Mathlib.Data.List.Induction
import TemplateCodegen.Proofs.Incremental.Refresh

/-!
# Evaluation from scratch

The second reading of a graph: a stage is what a node computes, without anything it remembers, and
the stages are evaluated one after the other on the values that the sources have been supplied with.
There are no versions, no slots and no recorded results. A node is exact when it holds what its
stage gives for the values held in front of it; main statement: where every node that an output
depends on is exact, all of them hold their values from scratch (`batch?_eq_scratch`).
-/

namespace TemplateCodegen.Incremental

variable {β : Type} [Payload β]

/-- What a node computes. -/
inductive Stage (β : Type) [Payload β] where
  /-- Values supplied from outside. -/
  | source (kind : Kind β)
  /-- A function applied to every element. -/
  | map (domain codomain : Kind β) (input : Nat) (fn : StageFn domain.Val codomain.Val)
  /-- Every value of one input with the one value of another. -/
  | combine (left right : Kind β) (leftInput rightInput : Nat)
  /-- All values as one list. -/
  | collect (kind : Kind β) (input : Nat)
  /-- A place where a value is handed out. -/
  | output (kind : Kind β) (input : Nat)

/-- What the node computes. -/
def Node.stage : Node β → Stage β
  | .source kind _ => .source kind
  | .map domain codomain node => .map domain codomain node.source node.fn
  | .combine left right node => .combine left right node.leftSource node.rightSource
  | .collect kind node => .collect kind node.source
  | .output kind node => .output kind node.source

namespace Stage

/-- The numbers of the nodes that the stage reads. -/
def inputs : Stage β → List Nat
  | .source _ => []
  | .map _ _ input _ => [input]
  | .combine _ _ leftInput rightInput => [leftInput, rightInput]
  | .collect _ input => [input]
  | .output _ input => [input]

/-- Whether values are handed out at the stage. -/
def isOutput : Stage β → Bool
  | .output _ _ => true
  | _ => false

/-- The kind of the values that the stage gives; an output gives none. -/
def kind? : Stage β → Option (Kind β)
  | .source kind => some kind
  | .map _ codomain _ _ => some codomain
  | .combine left right _ _ => some (.pair left right)
  | .collect kind _ => some (.list kind)
  | .output _ _ => none

end Stage

/-- A node reads what its stage reads. -/
theorem Node.inputs_stage (node : Node β) : node.stage.inputs = node.inputs := by
  cases node <;> rfl

/-- A node is an output when its stage is. -/
theorem Node.isOutput_stage (node : Node β) : node.stage.isOutput = node.isOutput := by
  cases node <;> rfl

/-- The stages of a graph, in the order of their creation. -/
def StageGraph.stages (graph : StageGraph β) : List (Stage β) := graph.nodes.map Node.stage

/-- Values of some kind, without a version. -/
structure Batch (β : Type) [Payload β] where
  /-- Their kind. -/
  kind : Kind β
  /-- The values. -/
  values : List kind.Val

/-- What the host has last supplied under every number. -/
abbrev Supply (β : Type) [Payload β] : Type := (id : Nat) → (kind : Kind β) → List kind.Val

/-- The values that a node holds. -/
def Node.batch? (node : Node β) : Option (Batch β) :=
  node.held?.map fun held => ⟨held.kind, held.slot.values⟩

/-- Each value of the left with the first one of the right. -/
def pairUp {left right : Kind β} (lefts : List left.Val) :
    List right.Val → List (Kind.pair left right).Val
  | [] => []
  | value :: _ => lefts.map fun element => (element, value)

variable [DecidableEq β]

/-- The values, when they are of the kind that is asked for. -/
def Batch.ofKind? (kind : Kind β) (batch : Batch β) : Option (List kind.Val) :=
  if h : batch.kind = kind then some (h ▸ batch.values) else none

/-- The values of a kind under a number. -/
def valuesIn? (kind : Kind β) (batches : List (Option (Batch β))) (id : Nat) :
    Option (List kind.Val) :=
  (batches[id]?).join.bind (Batch.ofKind? kind)

namespace Stage

/-- What the stage gives when it stands behind others that have given their values. A stage whose
input is not there gives nothing. -/
def batch? (supply : Supply β) (front : List (Option (Batch β))) : Stage β → Option (Batch β)
  | .source kind => some ⟨kind, supply front.length kind⟩
  | .map domain codomain input fn =>
    (valuesIn? domain front input).map fun values => ⟨codomain, values.flatMap fn.value⟩
  | .combine left right leftInput rightInput =>
    match valuesIn? left front leftInput, valuesIn? right front rightInput with
    | some lefts, some rights => some ⟨.pair left right, pairUp lefts rights⟩
    | _, _ => none
  | .collect kind input =>
    (valuesIn? kind front input).map fun values => ⟨.list kind, [values]⟩
  | .output _ _ => none

/-- A stage looks at nothing but its inputs and its own place. -/
theorem batch?_congr {supply : Supply β} {front front' : List (Option (Batch β))} {stage : Stage β}
    (hlength : front.length = front'.length)
    (hinputs : ∀ id ∈ stage.inputs, front[id]? = front'[id]?) :
    stage.batch? supply front = stage.batch? supply front' := by
  cases stage with
  | source kind => simp [batch?, hlength]
  | map domain codomain input fn => simp [batch?, valuesIn?, hinputs input (by simp [inputs])]
  | combine left right leftInput rightInput =>
    simp [batch?, valuesIn?, hinputs leftInput (by simp [inputs]),
      hinputs rightInput (by simp [inputs])]
  | collect kind input => simp [batch?, valuesIn?, hinputs input (by simp [inputs])]
  | output kind input => rfl

end Stage

/-- The values of all stages, each computed from those in front of it. -/
def scratch (supply : Supply β) (stages : List (Stage β)) : List (Option (Batch β)) :=
  stages.foldl (fun front stage => front ++ [stage.batch? supply front]) []

/-- One more stage gives one more batch and leaves those in front alone. -/
theorem scratch_concat (supply : Supply β) (stages : List (Stage β)) (stage : Stage β) :
    scratch supply (stages ++ [stage]) =
      scratch supply stages ++ [stage.batch? supply (scratch supply stages)] := by
  simp [scratch, List.foldl_append]

/-- Every stage has its place. -/
theorem length_scratch (supply : Supply β) (stages : List (Stage β)) :
    (scratch supply stages).length = stages.length := by
  induction stages using List.reverseRecOn with
  | nil => rfl
  | append_singleton stages stage ih => simp [scratch_concat, ih]

/-- The stages in front decide about their batches alone. -/
theorem scratch_take (supply : Supply β) (stages : List (Stage β)) (count : Nat) :
    scratch supply (stages.take count) = (scratch supply stages).take count := by
  induction stages using List.reverseRecOn with
  | nil => simp [scratch]
  | append_singleton stages stage ih =>
    by_cases hle : count ≤ stages.length
    · have hshort : count ≤ (scratch supply stages).length := by
        rw [length_scratch]
        exact hle
      rw [List.take_append_of_le_length hle, ih, scratch_concat,
        List.take_append_of_le_length hshort]
    · have hstages : (stages ++ [stage]).length ≤ count := by
        simp only [List.length_append, List.length_cons, List.length_nil]
        omega
      have hbatches : (scratch supply (stages ++ [stage])).length ≤ count := by
        rw [length_scratch]
        exact hstages
      rw [List.take_of_length_le hstages, List.take_of_length_le hbatches]

/-- The batch of a stage is what the stage gives behind the batches in front of it. -/
theorem scratch_getElem? (supply : Supply β) {stages : List (Stage β)} {id : Nat} {stage : Stage β}
    (h : stages[id]? = some stage) :
    (scratch supply stages)[id]? =
      some (stage.batch? supply ((scratch supply stages).take id)) := by
  obtain ⟨hid, _⟩ := List.getElem?_eq_some_iff.mp h
  have htake : stages.take (id + 1) = stages.take id ++ [stage] := by
    rw [List.take_add_one, h]
    rfl
  have hlength : (scratch supply (stages.take id)).length = id := by
    rw [length_scratch, List.length_take]
    omega
  have hlast : (scratch supply (stages.take (id + 1)))[id]? =
      some (stage.batch? supply (scratch supply (stages.take id))) := by
    rw [htake, scratch_concat, List.getElem?_append_right (by omega), hlength]
    simp
  rw [scratch_take, List.getElem?_take_of_lt (by omega), scratch_take] at hlast
  exact hlast

/-! ## What a number denotes -/

/-- What the stage under a number gives from scratch. Stages added later do not change it. -/
def Denotes (supply : Supply β) (stages : List (Stage β)) (id : Nat) (kind : Kind β)
    (values : List kind.Val) : Prop :=
  (scratch supply stages)[id]? = some (some ⟨kind, values⟩)

/-- The batch of a stage is of the kind that the stage gives. -/
theorem Stage.kind?_of_batch? {supply : Supply β} {front : List (Option (Batch β))}
    {stage : Stage β} {batch : Batch β} (h : stage.batch? supply front = some batch) :
    stage.kind? = some batch.kind := by
  cases stage with
  | source kind =>
    cases h
    rfl
  | map domain codomain input fn =>
    obtain ⟨values, _, rfl⟩ := Option.map_eq_some_iff.mp h
    rfl
  | combine left right leftInput rightInput =>
    simp only [batch?] at h
    split at h
    · cases h
      rfl
    · cases h
  | collect kind input =>
    obtain ⟨values, _, rfl⟩ := Option.map_eq_some_iff.mp h
    rfl
  | output kind input => cases h

namespace Denotes

variable {supply : Supply β} {stages : List (Stage β)}

/-- What is denoted stands in front of the end. -/
theorem lt {id : Nat} {kind : Kind β} {values : List kind.Val}
    (h : Denotes supply stages id kind values) : id < stages.length := by
  obtain ⟨hid, _⟩ := List.getElem?_eq_some_iff.mp h
  rwa [length_scratch] at hid

/-- What is denoted is of the kind of its stage. -/
theorem kind? {id : Nat} {kind : Kind β} {values : List kind.Val}
    (h : Denotes supply stages id kind values) : (stages[id]?).bind Stage.kind? = some kind := by
  have hstage := List.getElem?_eq_getElem h.lt
  have hbatch := (scratch_getElem? supply hstage).symm.trans h
  rw [hstage]
  exact Stage.kind?_of_batch? (Option.some.inj hbatch)

/-- The values of a kind that are found are the denoted ones. -/
theorem valuesIn? {id : Nat} {kind : Kind β} {values : List kind.Val}
    (h : Denotes supply stages id kind values) :
    Incremental.valuesIn? kind (scratch supply stages) id = some values := by
  unfold Incremental.valuesIn?
  rw [show (scratch supply stages)[id]? = some (some ⟨kind, values⟩) from h]
  simp [Batch.ofKind?]

/-- One more stage leaves what is denoted. -/
theorem concat {id : Nat} {kind : Kind β} {values : List kind.Val}
    (h : Denotes supply stages id kind values) (stage : Stage β) :
    Denotes supply (stages ++ [stage]) id kind values := by
  obtain ⟨hid, _⟩ := List.getElem?_eq_some_iff.mp h
  unfold Denotes
  rw [scratch_concat, List.getElem?_append_left hid]
  exact h

/-- The last stage denotes what it gives behind the others. -/
theorem last {stage : Stage β} {kind : Kind β} {values : List kind.Val}
    (h : stage.batch? supply (scratch supply stages) = some ⟨kind, values⟩) :
    Denotes supply (stages ++ [stage]) stages.length kind values := by
  have hlength : (scratch supply stages).length = stages.length := length_scratch supply stages
  unfold Denotes
  rw [scratch_concat, List.getElem?_append_right (by omega), hlength, Nat.sub_self, h]
  rfl

/-- A source denotes what is supplied under its number. -/
theorem of_source {id : Nat} {kind : Kind β} (h : stages[id]? = some (.source kind)) :
    Denotes supply stages id kind (supply id kind) := by
  obtain ⟨hid, _⟩ := List.getElem?_eq_some_iff.mp h
  unfold Denotes
  rw [scratch_getElem? supply h, Stage.batch?, List.length_take, length_scratch,
    Nat.min_eq_left (Nat.le_of_lt hid)]

/-- A map denotes the results of its function one behind the other. -/
theorem map {domain : Kind β} (codomain : Kind β) {input : Nat} {values : List domain.Val}
    (h : Denotes supply stages input domain values) (fn : StageFn domain.Val codomain.Val) :
    Denotes supply (stages ++ [.map domain codomain input fn]) stages.length codomain
      (values.flatMap fn.value) := by
  refine last ?_
  rw [Stage.batch?, h.valuesIn?]
  rfl

/-- A pairing denotes the pairs. -/
theorem combine {left right : Kind β} {leftInput rightInput : Nat} {lefts : List left.Val}
    {rights : List right.Val} (hleft : Denotes supply stages leftInput left lefts)
    (hright : Denotes supply stages rightInput right rights) :
    Denotes supply (stages ++ [.combine left right leftInput rightInput]) stages.length
      (.pair left right) (pairUp lefts rights) := by
  refine last ?_
  rw [Stage.batch?, hleft.valuesIn?, hright.valuesIn?]

/-- A gathering denotes one list. -/
theorem collect {kind : Kind β} {input : Nat} {values : List kind.Val}
    (h : Denotes supply stages input kind values) :
    Denotes supply (stages ++ [.collect kind input]) stages.length (.list kind)
      [(values : (Kind.list kind).Val)] := by
  refine last ?_
  rw [Stage.batch?, h.valuesIn?]
  rfl

end Denotes

omit [DecidableEq β] in
/-- Which stages an output depends on: the outputs, and what such a stage reads. -/
inductive Wanted (stages : List (Stage β)) : Nat → Prop where
  /-- An output depends on itself. -/
  | output {id : Nat} {stage : Stage β} (place : stages[id]? = some stage)
    (h : stage.isOutput = true) : Wanted stages id
  /-- What reads a stage depends on it. -/
  | input {reader id : Nat} {stage : Stage β} (wanted : Wanted stages reader)
    (place : stages[reader]? = some stage) (h : id ∈ stage.inputs) : Wanted stages id

/-- The node holds what its stage gives for the values held in front of it. -/
def Node.IsExact (supply : Supply β) (front : List (Node β)) (node : Node β) : Prop :=
  node.batch? = node.stage.batch? supply (front.map Node.batch?)

/-- Where every node that an output depends on is exact, all of them hold their values from
scratch. -/
theorem batch?_eq_scratch {supply : Supply β} {nodes : List (Node β)}
    (hexact : ∀ id node, nodes[id]? = some node → Wanted (nodes.map Node.stage) id →
      node.IsExact supply (nodes.take id))
    {id : Nat} (hwanted : Wanted (nodes.map Node.stage) id) :
    (nodes.map Node.batch?)[id]? = (scratch supply (nodes.map Node.stage))[id]? := by
  induction id using Nat.strongRecOn with
  | ind id ih =>
    cases hnode : nodes[id]? with
    | none =>
      have hlength : nodes.length ≤ id := List.getElem?_eq_none_iff.mp hnode
      rw [List.getElem?_eq_none (by simpa using hlength),
        List.getElem?_eq_none (by simpa [length_scratch] using hlength)]
    | some node =>
      have hstage : (nodes.map Node.stage)[id]? = some node.stage := by simp [hnode]
      have hbatch : (nodes.map Node.batch?)[id]? = some node.batch? := by simp [hnode]
      have hid : id < nodes.length := (List.getElem?_eq_some_iff.mp hnode).1
      rw [hbatch, scratch_getElem? supply hstage, hexact id node hnode hwanted]
      refine congrArg some (Stage.batch?_congr ?_ fun input hinput => ?_)
      · simp [length_scratch]
      · by_cases hlt : input < id
        · have heq := ih input hlt (hwanted.input hstage hinput)
          rw [List.map_take, List.getElem?_take_of_lt hlt, List.getElem?_take_of_lt hlt, heq]
        · rw [List.getElem?_eq_none (by simp; omega), List.getElem?_eq_none (by simp; omega)]

end TemplateCodegen.Incremental
