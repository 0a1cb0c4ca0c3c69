import TemplateCodegen.Proofs.Incremental.Scratch

/-!
# Runs that nobody stops

Under an inert token no poll fails. A computation passes when it ends under every such signal and
leaves it as it was; polls and values pass, and computations one behind the other pass when each of
them does. Main statement: a graph whose stage functions pass is run to its end
(`StageGraph.run_passes`).
-/

namespace TemplateCodegen.Incremental

/-- Under an inert token the computation is not cancelled and leaves the signal as it was. -/
def Run.Passes {α : Type} (computation : Run α) : Prop :=
  ∀ spent, ∃ value, computation ⟨.inert, spent⟩ = .ok value ⟨.inert, spent⟩

namespace Run.Passes

/-- A poll passes. -/
theorem poll : Passes Run.poll := fun _ => ⟨(), rfl⟩

/-- A value passes. -/
theorem pure {α : Type} (value : α) : Passes (Pure.pure value : Run α) := fun _ => ⟨value, rfl⟩

/-- Two computations, one behind the other, pass when both of them do. -/
theorem bind {α γ : Type} {first : Run α} {next : α → Run γ} (hfirst : first.Passes)
    (hnext : ∀ value, (next value).Passes) : (first >>= next).Passes := by
  intro spent
  obtain ⟨value, hvalue⟩ := hfirst spent
  obtain ⟨result, hresult⟩ := hnext value spent
  refine ⟨result, ?_⟩
  change EStateM.bind first next ⟨.inert, spent⟩ = .ok result ⟨.inert, spent⟩
  unfold EStateM.bind
  rw [hvalue]
  exact hresult

end Run.Passes

/-- The stage function is never cancelled but by a poll. -/
def StageFn.IsWilling {α γ : Type} (fn : StageFn α γ) : Prop :=
  ∀ element, (fn.compute element).Passes

variable {β : Type} [Payload β]

/-- The stage is never cancelled but by a poll. -/
def Stage.IsWilling : Stage β → Prop
  | .map _ _ _ fn => fn.IsWilling
  | _ => True

/-- The results of all elements are reached. -/
theorem MapNode.results_passes {domain codomain : Kind β} {node : MapNode domain codomain}
    (h : node.fn.IsWilling) (index : Nat) (elements : List domain.Val) :
    (node.results index elements).Passes := by
  induction elements generalizing index with
  | nil => exact .pure []
  | cons element rest ih =>
    have hresult : (node.resultOf index element).Passes := by
      refine Run.Passes.poll.bind fun _ => ?_
      cases node.cached? index element with
      | some result => exact .pure (result, false)
      | none => exact (h element).bind fun result => .pure (result, true)
    exact hresult.bind fun first => (ih (index + 1)).bind fun more => .pure (first :: more)

variable [DecidableEq β]

/-- The evaluation of a willing node is reached. -/
theorem Node.evaluate_passes {node : Node β} (h : node.stage.IsWilling) (front : List (Node β)) :
    (node.evaluate front).Passes := by
  cases node with
  | source kind inner => exact .pure _
  | output kind inner => exact .pure _
  | map domain codomain inner =>
    refine Run.Passes.bind ?_ fun result => .pure _
    unfold MapNode.evaluate
    split
    · exact .pure _
    · split
      · exact .pure _
      · exact (MapNode.results_passes h 0 _).bind fun results => .pure _
  | combine left right inner =>
    refine Run.Passes.bind ?_ fun result => .pure _
    unfold CombineNode.evaluate
    split
    · split
      · exact .pure _
      · exact Run.Passes.poll.bind fun _ => .pure _
    · exact .pure _
  | collect kind inner => exact .pure _

/-- Bringing willing nodes up to date is reached. -/
theorem advance_passes {rest : List (Node β × Bool)}
    (h : ∀ entry ∈ rest, entry.1.stage.IsWilling) (front : List (Node β)) (summary : Summary)
    (spent : List Nat) :
    ∃ done, (advance front summary rest ⟨.inert, spent⟩).outcome = .ok done := by
  induction rest generalizing front summary with
  | nil => exact ⟨summary, rfl⟩
  | cons entry rest ih =>
    obtain ⟨node, mark⟩ := entry
    have hrest := ih fun other hother => h other (List.mem_cons_of_mem _ hother)
    cases mark with
    | false => exact hrest (front ++ [node]) summary
    | true =>
      have hnode := Run.Passes.poll.bind
        fun _ => Node.evaluate_passes (h (node, true) List.mem_cons_self) front
      obtain ⟨⟨next, changed⟩, hnext⟩ := hnode spent
      rw [advance, hnext]
      exact hrest (front ++ [next]) (summary.count node next changed)

/-- A graph whose stages are willing is run to its end under a signal that nobody uses. -/
theorem StageGraph.run_passes {graph : StageGraph β}
    (h : ∀ stage ∈ graph.stages, stage.IsWilling) (spent : List Nat) :
    ∃ summary, (graph.run ⟨.inert, spent⟩).2.2 = .ok summary := by
  refine advance_passes (fun entry hentry => h entry.1.stage ?_) [] {} spent
  have hnode : entry.1 ∈ graph.nodes := (List.of_mem_zip hentry).1
  exact List.mem_map_of_mem hnode

end TemplateCodegen.Incremental
