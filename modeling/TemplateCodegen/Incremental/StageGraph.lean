import TemplateCodegen.Incremental.Node

/-!
# Graphs of stages

A graph is a list of nodes in the order of their creation. Stages are added through typed handles; a
handle names a node by its number and is read against any graph, where it finds values only if that
node holds its kind. Values enter at sources and are handed out at outputs.
-/

namespace TemplateCodegen.Incremental

variable {β : Type}

/-- A stage of any number of values. -/
structure Values (kind : Kind β) where
  /-- The number of its node. -/
  id : Nat

/-- A stage of exactly one value. -/
structure Single (kind : Kind β) where
  /-- The number of its node. -/
  id : Nat

/-- Values supplied from outside. -/
structure Source (kind : Kind β) where
  /-- The number of its node. -/
  id : Nat

/-- One value supplied from outside. -/
structure SingleSource (kind : Kind β) where
  /-- The number of its node. -/
  id : Nat

/-- A place where values are handed out. -/
structure Output (kind : Kind β) where
  /-- The number of its node. -/
  id : Nat

/-- The values of a source as a stage. -/
def Source.values {kind : Kind β} (source : Source kind) : Values kind := ⟨source.id⟩

/-- The value of a source as a stage. -/
def SingleSource.value {kind : Kind β} (source : SingleSource kind) : Single kind := ⟨source.id⟩

/-- The one value of a stage as a stage of values. -/
def Single.asValues {kind : Kind β} (single : Single kind) : Values kind := ⟨single.id⟩

variable [Payload β]

/-- A graph of stages with all that they remember. -/
structure StageGraph (β : Type) [Payload β] where
  /-- The nodes in the order of their creation. -/
  nodes : List (Node β) := []
  /-- Whether elements may be worked on side by side; the results do not depend on it. -/
  isParallel : Bool := false
  /-- Whether the last run ended without being cancelled. -/
  isComplete : Bool := false

/-- A value that has not been taken at its output. -/
structure Pending (kind : Kind β) where
  /-- The version that the value has. -/
  version : Nat
  /-- The value. -/
  value : kind.Val

namespace StageGraph

/-- The graph without nodes. -/
def empty : StageGraph β := {}

/-- The number of nodes. -/
def size (graph : StageGraph β) : Nat := graph.nodes.length

/-- Whether there are no nodes. -/
def isEmpty (graph : StageGraph β) : Bool := graph.nodes.isEmpty

/-- Allow or forbid work side by side. -/
def setParallel (graph : StageGraph β) (isParallel : Bool) : StageGraph β :=
  { graph with isParallel }

/-- Add a node; its number comes back. -/
def push (node : Node β) : StateM (StageGraph β) Nat := fun graph =>
  (graph.nodes.length, { graph with nodes := graph.nodes ++ [node] })

/-- Add a source without values. -/
def source (kind : Kind β) : StateM (StageGraph β) (Source kind) := do
  return ⟨← push (.source kind {})⟩

/-- Replace the values of a source node; counts a change when they differ. -/
def setNode {kind : Kind β} (node : SourceNode kind) (values : List kind.Val) :
    SourceNode kind × Bool :=
  let (slot, changed) := node.slot.update values
  ({ slot, stats := node.stats.countChange changed }, changed)

/-- Add a source of one value. -/
def singleSource (kind : Kind β) (initial : kind.Val) :
    StateM (StageGraph β) (SingleSource kind) := do
  return ⟨← push (.source kind (setNode {} [initial]).1)⟩

/-- Add a stage that applies a function to every value. -/
def addMap {domain codomain : Kind β} (source : Nat) (fn : StageFn domain.Val codomain.Val) :
    StateM (StageGraph β) Nat :=
  push (.map domain codomain { source, fn })

/-- Map every value to one value. -/
def map {domain : Kind β} (codomain : Kind β) (input : Values domain)
    (f : domain.Val → codomain.Val) : StateM (StageGraph β) (Values codomain) := do
  return ⟨← addMap input.id (.ofPure fun element => [f element])⟩

/-- Map every value with a stage function that may poll and give up. -/
def tryMap {domain : Kind β} (codomain : Kind β) (input : Values domain)
    (fn : StageFn domain.Val codomain.Val) : StateM (StageGraph β) (Values codomain) := do
  return ⟨← addMap input.id fn⟩

/-- Map every value to any number of values. -/
def flatMap {domain : Kind β} (codomain : Kind β) (input : Values domain)
    (f : domain.Val → List codomain.Val) : StateM (StageGraph β) (Values codomain) := do
  return ⟨← addMap input.id (.ofPure f)⟩

/-- Keep the values that pass a test. -/
def filter {kind : Kind β} (input : Values kind) (test : kind.Val → Bool) :
    StateM (StageGraph β) (Values kind) := do
  return ⟨← addMap input.id (.ofPure fun element => if test element then [element] else [])⟩

/-- Map the one value of a stage. -/
def mapSingle {domain : Kind β} (codomain : Kind β) (input : Single domain)
    (f : domain.Val → codomain.Val) : StateM (StageGraph β) (Single codomain) := do
  return ⟨← addMap input.id (.ofPure fun element => [f element])⟩

/-- Pair every value with the one value of another stage. -/
def combine {left right : Kind β} (input : Values left) (partner : Single right) :
    StateM (StageGraph β) (Values (.pair left right)) := do
  return ⟨← push (.combine left right { leftSource := input.id, rightSource := partner.id })⟩

/-- Pair the one values of two stages. -/
def combineSingle {left right : Kind β} (input : Single left) (partner : Single right) :
    StateM (StageGraph β) (Single (.pair left right)) := do
  return ⟨← push (.combine left right { leftSource := input.id, rightSource := partner.id })⟩

/-- Gather all values into one list. -/
def collect {kind : Kind β} (input : Values kind) :
    StateM (StageGraph β) (Single (.list kind)) := do
  return ⟨← push (.collect kind { source := input.id })⟩

/-- Put two gathered lists one behind the other, through the pair of them. -/
def concat {kind : Kind β} (left right : Single (.list kind)) :
    StateM (StageGraph β) (Single (.list kind)) := do
  let pair ← combineSingle left right
  mapSingle (.list kind) pair fun (lists : List kind.Val × List kind.Val) => lists.1.append lists.2

/-- Hand out the value of a stage. -/
def output {kind : Kind β} (input : Single kind) : StateM (StageGraph β) (Output kind) := do
  return ⟨← push (.output kind { source := input.id })⟩

variable [DecidableEq β]

/-- Replace the values of a source node that holds a kind; also says whether they differ. -/
def setValues (graph : StageGraph β) (kind : Kind β) (id : Nat) (values : List kind.Val) :
    StageGraph β × Bool :=
  match graph.nodes[id]? with
  | some (.source found node) =>
    if h : found = kind then
      let (next, changed) := setNode node (h ▸ values)
      ({ graph with nodes := graph.nodes.set id (.source found next) }, changed)
    else (graph, false)
  | _ => (graph, false)

/-- Replace the values of a source. -/
def setSource {kind : Kind β} (graph : StageGraph β) (source : Source kind)
    (values : List kind.Val) :
    StageGraph β × Bool :=
  graph.setValues kind source.id values

/-- Replace the value of a source of one value. -/
def setSingle {kind : Kind β} (graph : StageGraph β) (source : SingleSource kind)
    (value : kind.Val) :
    StageGraph β × Bool :=
  graph.setValues kind source.id [value]

/-- The output node of a kind under a number. -/
def outputNode? (graph : StageGraph β) (kind : Kind β) (id : Nat) : Option (OutputNode kind) :=
  match graph.nodes[id]? with
  | some (.output found node) => if h : found = kind then some (h ▸ node) else none
  | _ => none

/-- The value at an output that has not been taken. There is none before the first run, after a
cancelled one, and while the version that was taken last stands. -/
def pending? {kind : Kind β} (graph : StageGraph β) (output : Output kind) :
    Option (Pending kind) :=
  if graph.isComplete then
    match graph.outputNode? kind output.id with
    | some node =>
      match slot? kind graph.nodes node.source with
      | some slot =>
        if node.taken = some slot.version then none
        else slot.values.head?.map fun value => ⟨slot.version, value⟩
      | none => none
    | none => none
  else none

/-- Mark a pending value as taken. -/
def commit {kind : Kind β} (graph : StageGraph β) (output : Output kind) (pending : Pending kind) :
    StageGraph β :=
  match graph.nodes[output.id]? with
  | some (.output found node) =>
    if found = kind then
      let next : OutputNode found :=
        { node with
          taken := some pending.version
          stats := { node.stats with computations := node.stats.computations + 1 } }
      { graph with nodes := graph.nodes.set output.id (.output found next) }
    else graph
  | _ => graph

/-- Take the value at an output, if it has not been taken. -/
def take {kind : Kind β} (graph : StageGraph β) (output : Output kind) :
    StageGraph β × Option kind.Val :=
  match graph.pending? output with
  | some pending => (graph.commit output pending, some pending.value)
  | none => (graph, none)

/-- The values of a stage as of the last run. -/
def peek? {kind : Kind β} (graph : StageGraph β) (values : Values kind) : Option (List kind.Val) :=
  (slot? kind graph.nodes values.id).map Slot.values

/-- The one value of a stage as of the last run. -/
def get? {kind : Kind β} (graph : StageGraph β) (single : Single kind) : Option kind.Val :=
  (slot? kind graph.nodes single.id).bind fun slot => slot.values.head?

omit [DecidableEq β] in
/-- What a node has done; nothing when there is no such node. -/
def stats (graph : StageGraph β) (id : Nat) : Stats :=
  ((graph.nodes[id]?).map Node.stats).getD {}

omit [DecidableEq β] in
/-- What every node has done, in the order of their creation. -/
def allStats (graph : StageGraph β) : List Stats := graph.nodes.map Node.stats

/-- Before the first run and after a cancelled one nothing is pending. -/
theorem pending?_of_not_complete {kind : Kind β} {graph : StageGraph β} (output : Output kind)
    (h : graph.isComplete = false) : graph.pending? output = none := by
  simp [pending?, h]

end StageGraph

end TemplateCodegen.Incremental
