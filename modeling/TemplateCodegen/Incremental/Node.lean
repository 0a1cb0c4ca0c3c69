import TemplateCodegen.Incremental.Kind
import TemplateCodegen.Incremental.Slot

/-!
# Nodes of a graph

A node is a stage with what it remembers: its slot, the versions of its inputs at its last
evaluation, and, where a function is applied to every element, the elements and results of that
evaluation. A node is evaluated against the nodes in front of it. It does nothing while the versions
it has seen stand, and it changes only when its evaluation ends; one that is cancelled leaves it as
it was.
-/

namespace TemplateCodegen.Incremental

variable {β : Type} [Payload β]

/-- Values that are supplied from outside. -/
structure SourceNode (kind : Kind β) where
  /-- The values. -/
  slot : Slot kind.Val := {}
  /-- What the node has done. -/
  stats : Stats := {}

/-- A function applied to every element of an input. -/
structure MapNode (domain codomain : Kind β) where
  /-- The number of the input node. -/
  source : Nat
  /-- The function. -/
  fn : StageFn domain.Val codomain.Val
  /-- The version of the input at the last evaluation. -/
  seen : Option Nat := none
  /-- The elements of the last evaluation with their results. -/
  memo : List (domain.Val × List codomain.Val) := []
  /-- The results. -/
  slot : Slot codomain.Val := {}
  /-- What the node has done. -/
  stats : Stats := {}

/-- Every value of one input paired with the one value of another. -/
structure CombineNode (left right : Kind β) where
  /-- The number of the node of the many values. -/
  leftSource : Nat
  /-- The number of the node of the one value. -/
  rightSource : Nat
  /-- The versions of the inputs at the last evaluation. -/
  seen : Option (Nat × Nat) := none
  /-- The pairs. -/
  slot : Slot (Kind.pair left right).Val := {}
  /-- What the node has done. -/
  stats : Stats := {}

/-- All values of an input as one list. -/
structure CollectNode (kind : Kind β) where
  /-- The number of the input node. -/
  source : Nat
  /-- The version of the input at the last evaluation. -/
  seen : Option Nat := none
  /-- The list, as the only value. -/
  slot : Slot (Kind.list kind).Val := {}
  /-- What the node has done. -/
  stats : Stats := {}

/-- A place where the value of an input is handed out when it has changed. -/
structure OutputNode (kind : Kind β) where
  /-- The number of the input node. -/
  source : Nat
  /-- The version of the value that was taken last. -/
  taken : Option Nat := none
  /-- What the node has done. -/
  stats : Stats := {}

/-- A node of a graph. -/
inductive Node (β : Type) [Payload β] where
  | source (kind : Kind β) (node : SourceNode kind)
  | map (domain codomain : Kind β) (node : MapNode domain codomain)
  | combine (left right : Kind β) (node : CombineNode left right)
  | collect (kind : Kind β) (node : CollectNode kind)
  | output (kind : Kind β) (node : OutputNode kind)

/-- Values of some kind. -/
structure KindedSlot (β : Type) [Payload β] where
  /-- Their kind. -/
  kind : Kind β
  /-- The values. -/
  slot : Slot kind.Val

namespace Node

/-- What the node has done. -/
def stats : Node β → Stats
  | .source _ node => node.stats
  | .map _ _ node => node.stats
  | .combine _ _ node => node.stats
  | .collect _ node => node.stats
  | .output _ node => node.stats

/-- The numbers of the nodes that the node reads. -/
def inputs : Node β → List Nat
  | .source _ _ => []
  | .map _ _ node => [node.source]
  | .combine _ _ node => [node.leftSource, node.rightSource]
  | .collect _ node => [node.source]
  | .output _ node => [node.source]

/-- Whether values are handed out at the node. -/
def isOutput : Node β → Bool
  | .output _ _ => true
  | _ => false

/-- The values that the node holds; an output holds none. -/
def held? : Node β → Option (KindedSlot β)
  | .source kind node => some ⟨kind, node.slot⟩
  | .map _ codomain node => some ⟨codomain, node.slot⟩
  | .combine left right node => some ⟨.pair left right, node.slot⟩
  | .collect kind node => some ⟨.list kind, node.slot⟩
  | .output _ _ => none

end Node

variable [DecidableEq β]

/-- The slot, when it is of the kind that is asked for. -/
def KindedSlot.ofKind? (kind : Kind β) (held : KindedSlot β) : Option (Slot kind.Val) :=
  if h : held.kind = kind then some (h ▸ held.slot) else none

/-- The values of a kind that a node of a graph holds. -/
def slot? (kind : Kind β) (nodes : List (Node β)) (id : Nat) : Option (Slot kind.Val) :=
  (nodes[id]?).bind fun node => node.held?.bind (KindedSlot.ofKind? kind)

namespace MapNode

variable {domain codomain : Kind β}

/-- The result of an equal element in the last evaluation: at the same place, or else anywhere. -/
def cached? (node : MapNode domain codomain) (index : Nat) (element : domain.Val) :
    Option (List codomain.Val) :=
  match (node.memo[index]?).filter fun entry => entry.1 == element with
  | some entry => some entry.2
  | none => (node.memo.find? fun entry => entry.1 == element).map Prod.snd

/-- The result of one element and whether it was computed. -/
def resultOf (node : MapNode domain codomain) (index : Nat) (element : domain.Val) :
    Run (List codomain.Val × Bool) := do
  Run.poll
  match node.cached? index element with
  | some result => pure (result, false)
  | none => do
    let result ← node.fn.compute element
    pure (result, true)

/-- The results of the elements from an index on. -/
def results (node : MapNode domain codomain) (index : Nat) :
    List domain.Val → Run (List (List codomain.Val × Bool))
  | [] => pure []
  | element :: rest => do
    let first ← node.resultOf index element
    let more ← node.results (index + 1) rest
    pure (first :: more)

/-- The node with the results of all elements of its input. -/
def commit (node : MapNode domain codomain) (source : Slot domain.Val)
    (results : List (List codomain.Val × Bool)) : MapNode domain codomain × Bool :=
  let (slot, changed) := node.slot.update (results.flatMap Prod.fst)
  ({ node with
      seen := some source.version
      memo := source.values.zip (results.map Prod.fst)
      slot
      stats := node.stats.countEvaluation (results.countP Prod.snd) changed }, changed)

/-- Bring the node up to date. -/
def evaluate (node : MapNode domain codomain) (front : List (Node β)) :
    Run (MapNode domain codomain × Bool) :=
  match slot? domain front node.source with
  | none => pure (node, false)
  | some source =>
    if node.seen = some source.version then pure (node, false)
    else do
      let results ← node.results 0 source.values
      pure (node.commit source results)

end MapNode

namespace CombineNode

variable {left right : Kind β}

/-- Every value of the left with the first one of the right; nothing when the right has none. -/
def pairs (lefts : Slot left.Val) (rights : Slot right.Val) : List (Kind.pair left right).Val :=
  match rights.values with
  | [] => []
  | value :: _ => lefts.values.map fun element => (element, value)

/-- The node with the pairs of its inputs. -/
def commit (node : CombineNode left right) (lefts : Slot left.Val) (rights : Slot right.Val) :
    CombineNode left right × Bool :=
  let outputs := pairs lefts rights
  let (slot, changed) := node.slot.update outputs
  ({ node with
      seen := some (lefts.version, rights.version)
      slot
      stats := node.stats.countEvaluation outputs.length changed }, changed)

/-- Bring the node up to date. -/
def evaluate (node : CombineNode left right) (front : List (Node β)) :
    Run (CombineNode left right × Bool) :=
  match slot? left front node.leftSource, slot? right front node.rightSource with
  | some lefts, some rights =>
    if node.seen = some (lefts.version, rights.version) then pure (node, false)
    else do
      Run.poll
      pure (node.commit lefts rights)
  | _, _ => pure (node, false)

end CombineNode

namespace CollectNode

variable {kind : Kind β}

/-- The node with the list of its input. -/
def commit (node : CollectNode kind) (source : Slot kind.Val) : CollectNode kind × Bool :=
  let collected : (Kind.list kind).Val := source.values
  let (slot, changed) := node.slot.update [collected]
  ({ node with
      seen := some source.version
      slot
      stats := node.stats.countEvaluation 1 changed }, changed)

/-- Bring the node up to date. -/
def evaluate (node : CollectNode kind) (front : List (Node β)) : CollectNode kind × Bool :=
  match slot? kind front node.source with
  | none => (node, false)
  | some source => if node.seen = some source.version then (node, false) else node.commit source

end CollectNode

/-- Bring a node up to date with the nodes in front of it; also says whether its values have
changed. -/
def Node.evaluate (node : Node β) (front : List (Node β)) : Run (Node β × Bool) :=
  match node with
  | .source _ _ => pure (node, false)
  | .output _ _ => pure (node, false)
  | .map domain codomain inner => do
    let (next, changed) ← inner.evaluate front
    pure (.map domain codomain next, changed)
  | .combine left right inner => do
    let (next, changed) ← inner.evaluate front
    pure (.combine left right next, changed)
  | .collect kind inner =>
    let (next, changed) := inner.evaluate front
    pure (.collect kind next, changed)

end TemplateCodegen.Incremental
