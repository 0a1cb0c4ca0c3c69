import TemplateCodegen.Incremental.StageGraph

/-!
# Runs of a graph

A run brings up to date every node that an output depends on, in the order of their creation, and
polls in front of each. When it is cancelled the nodes evaluated so far keep what they have, the one
under way and those behind it stay as they were, and nothing can be taken at an output until a run
ends.
-/

namespace TemplateCodegen.Incremental

variable {β : Type} [Payload β]

/-- What a run has done. -/
structure Summary where
  /-- The number of nodes that were evaluated. -/
  evaluated : Nat := 0
  /-- The number of nodes whose values have changed. -/
  changed : Nat := 0
deriving DecidableEq, Repr

/-- Which nodes are asked for by an output or by a node that is asked for itself: the outputs at
first, and in each further round the inputs of the nodes found so far. -/
def demandedAfter (nodes : List (Node β)) : Nat → List Bool
  | 0 => nodes.map Node.isOutput
  | rounds + 1 =>
    let marks := demandedAfter nodes rounds
    let wanted := (nodes.zip marks).flatMap fun entry => if entry.2 then entry.1.inputs else []
    marks.mapIdx fun id mark => mark || wanted.contains id

/-- Which nodes an output depends on. As many rounds as there are nodes reach all of them. -/
def demanded (nodes : List (Node β)) : List Bool := demandedAfter nodes nodes.length

/-- Whatever the number of rounds, there is one mark for each node. -/
theorem length_demandedAfter (nodes : List (Node β)) (rounds : Nat) :
    (demandedAfter nodes rounds).length = nodes.length := by
  induction rounds with
  | zero => simp [demandedAfter]
  | succ rounds ih => simp [demandedAfter, ih]

/-- The state in which a run leaves its nodes and its signal, and how it ended. -/
structure PassResult (β : Type) [Payload β] where
  /-- The nodes. -/
  nodes : List (Node β)
  /-- The signal. -/
  signal : Signal
  /-- What was done, unless the run was cancelled. -/
  outcome : Except Cancelled Summary

variable [DecidableEq β]

/-- Count one node that has been brought up to date. -/
def Summary.count (summary : Summary) (before after : Node β) (changed : Bool) : Summary :=
  { evaluated := summary.evaluated +
      if before.stats.evaluations = after.stats.evaluations then 0 else 1
    changed := summary.changed + if changed then 1 else 0 }

/-- Bring the remaining nodes up to date, those in front of them being so already. -/
def advance (front : List (Node β)) (summary : Summary) :
    List (Node β × Bool) → Signal → PassResult β
  | [], signal => ⟨front, signal, .ok summary⟩
  | (node, false) :: rest, signal => advance (front ++ [node]) summary rest signal
  | (node, true) :: rest, signal =>
    match (do Run.poll; node.evaluate front : Run (Node β × Bool)) signal with
    | .ok (next, changed) signal' =>
      advance (front ++ [next]) (summary.count node next changed) rest signal'
    | .error error signal' => ⟨front ++ node :: rest.map Prod.fst, signal', .error error⟩

/-- Run a graph under a signal. -/
def StageGraph.run (graph : StageGraph β) (signal : Signal) :
    StageGraph β × Signal × Except Cancelled Summary :=
  let result := advance [] {} (graph.nodes.zip (demanded graph.nodes)) signal
  ({ graph with nodes := result.nodes, isComplete := result.outcome.isOk }, result.signal,
    result.outcome)

/-- A run keeps the number of nodes. -/
theorem length_advance (front : List (Node β)) (summary : Summary) (rest : List (Node β × Bool))
    (signal : Signal) :
    (advance front summary rest signal).nodes.length = front.length + rest.length := by
  induction rest generalizing front summary signal with
  | nil => simp [advance]
  | cons entry rest ih =>
    obtain ⟨node, mark⟩ := entry
    cases mark with
    | false =>
      rw [advance, ih]
      simp only [List.length_append, List.length_cons, List.length_nil]
      omega
    | true =>
      rw [advance]
      split
      · rw [ih]
        simp only [List.length_append, List.length_cons, List.length_nil]
        omega
      · simp

end TemplateCodegen.Incremental
