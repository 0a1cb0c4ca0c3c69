import TemplateCodegen.Incremental.Pass

/-!
# What a run does to the nodes

An evaluation that is not cancelled does what its signal has no part in: it refreshes the node. A
run refreshes the demanded nodes from the front on, as far as it comes. Main statements: a node that
is evaluated to the end is refreshed (`Node.evaluate_ok`), every run leaves some first part of the
graph refreshed and the rest untouched (`advance_nodes`), and so whatever each refreshed node keeps
is kept by every run, complete or cancelled (`StageGraph.run_keeps`).
-/

namespace TemplateCodegen.Incremental

/-- Two computations, one behind the other, that are not cancelled: each of them is not. -/
theorem Run.bind_eq_ok {α γ : Type} {first : Run α} {next : α → Run γ} {signal signal' : Signal}
    {result : γ} (h : (first >>= next) signal = .ok result signal') :
    ∃ value between, first signal = .ok value between ∧
      next value between = .ok result signal' := by
  change EStateM.bind first next signal = .ok result signal' at h
  unfold EStateM.bind at h
  cases hfirst : first signal with
  | ok value between =>
    rw [hfirst] at h
    exact ⟨value, between, rfl, h⟩
  | error error between =>
    rw [hfirst] at h
    cases h

/-- A computation that only returns a value returns that value. -/
theorem Run.pure_eq_ok {α : Type} {value result : α} {signal signal' : Signal}
    (h : (pure value : Run α) signal = .ok result signal') :
    value = result ∧ signal = signal' := by
  change EStateM.Result.ok value signal = EStateM.Result.ok result signal' at h
  cases h
  exact ⟨rfl, rfl⟩

variable {β : Type} [Payload β]

namespace MapNode

variable {domain codomain : Kind β}

/-- The result of one element and whether it has to be computed. -/
def resultFor (node : MapNode domain codomain) (index : Nat) (element : domain.Val) :
    List codomain.Val × Bool :=
  match node.cached? index element with
  | some result => (result, false)
  | none => (node.fn.value element, true)

/-- The results of the elements from an index on. -/
def resultsFrom (node : MapNode domain codomain) (index : Nat) :
    List domain.Val → List (List codomain.Val × Bool)
  | [] => []
  | element :: rest => node.resultFor index element :: node.resultsFrom (index + 1) rest

/-- What is found for an element was recorded for an element that counts as equal. -/
theorem cached?_eq_some {node : MapNode domain codomain} {index : Nat} {element : domain.Val}
    {result : List codomain.Val} (h : node.cached? index element = some result) :
    ∃ entry ∈ node.memo, (entry.1 == element) = true ∧ entry.2 = result := by
  unfold cached? at h
  split at h
  · rename_i entry hentry
    obtain ⟨hat, hequal⟩ := Option.filter_eq_some_iff.mp hentry
    refine ⟨entry, List.mem_of_getElem? hat, hequal, ?_⟩
    simpa using h
  · obtain ⟨entry, hfind, hresult⟩ := Option.map_eq_some_iff.mp h
    have hequal := List.find?_some hfind
    exact ⟨entry, List.mem_of_find?_eq_some hfind, hequal, hresult⟩

/-- An evaluation of one element that is not cancelled. -/
theorem resultOf_ok {node : MapNode domain codomain} {index : Nat} {element : domain.Val}
    {signal signal' : Signal} {result : List codomain.Val × Bool}
    (h : node.resultOf index element signal = .ok result signal') :
    result = node.resultFor index element := by
  unfold resultOf at h
  obtain ⟨_, between, _, h⟩ := Run.bind_eq_ok h
  unfold resultFor
  cases hcached : node.cached? index element with
  | some found =>
    rw [hcached] at h
    exact (Run.pure_eq_ok h).1.symm
  | none =>
    rw [hcached] at h
    obtain ⟨computed, after, hcompute, h⟩ := Run.bind_eq_ok h
    rw [← (Run.pure_eq_ok h).1, node.fn.compute_ok hcompute]

/-- An evaluation of the elements that is not cancelled. -/
theorem results_ok {node : MapNode domain codomain} {index : Nat} {elements : List domain.Val}
    {signal signal' : Signal} {results : List (List codomain.Val × Bool)}
    (h : node.results index elements signal = .ok results signal') :
    results = node.resultsFrom index elements := by
  induction elements generalizing index signal signal' results with
  | nil => exact (Run.pure_eq_ok h).1.symm
  | cons element rest ih =>
    unfold MapNode.results at h
    obtain ⟨first, between, hfirst, h⟩ := Run.bind_eq_ok h
    obtain ⟨more, after, hmore, h⟩ := Run.bind_eq_ok h
    rw [← (Run.pure_eq_ok h).1, resultOf_ok hfirst, ih hmore]
    rfl

/-- The results are the values of the stage function, when what was recorded for an element that
counts as equal is the value of the element itself. -/
theorem resultsFrom_fst {node : MapNode domain codomain} {elements : List domain.Val}
    (h : ∀ element ∈ elements, ∀ entry ∈ node.memo, (entry.1 == element) = true →
      entry.2 = node.fn.value element)
    (index : Nat) :
    (node.resultsFrom index elements).map Prod.fst = elements.map node.fn.value := by
  induction elements generalizing index with
  | nil => rfl
  | cons element rest ih =>
    have hrest := ih (fun other hother => h other (List.mem_cons_of_mem element hother)) (index + 1)
    have hfirst : (node.resultFor index element).1 = node.fn.value element := by
      unfold resultFor
      cases hcached : node.cached? index element with
      | none => rfl
      | some result =>
        obtain ⟨entry, hmem, hequal, hresult⟩ := cached?_eq_some hcached
        exact hresult.symm.trans (h element List.mem_cons_self entry hmem hequal)
    simp [resultsFrom, hrest, hfirst]

end MapNode

variable [DecidableEq β]

/-- The node brought up to date with the nodes in front of it, without polls. -/
def MapNode.refresh {domain codomain : Kind β} (node : MapNode domain codomain)
    (front : List (Node β)) : MapNode domain codomain × Bool :=
  match slot? domain front node.source with
  | none => (node, false)
  | some source =>
    if node.seen = some source.version then (node, false)
    else node.commit source (node.resultsFrom 0 source.values)

/-- The node brought up to date with the nodes in front of it, without polls. -/
def CombineNode.refresh {left right : Kind β} (node : CombineNode left right)
    (front : List (Node β)) : CombineNode left right × Bool :=
  match slot? left front node.leftSource, slot? right front node.rightSource with
  | some lefts, some rights =>
    if node.seen = some (lefts.version, rights.version) then (node, false)
    else node.commit lefts rights
  | _, _ => (node, false)

/-- The node brought up to date with the nodes in front of it, without polls. -/
def Node.refresh (node : Node β) (front : List (Node β)) : Node β × Bool :=
  match node with
  | .source _ _ => (node, false)
  | .output _ _ => (node, false)
  | .map domain codomain inner =>
    (.map domain codomain (inner.refresh front).1, (inner.refresh front).2)
  | .combine left right inner =>
    (.combine left right (inner.refresh front).1, (inner.refresh front).2)
  | .collect kind inner => (.collect kind (inner.evaluate front).1, (inner.evaluate front).2)

/-- An evaluation that is not cancelled refreshes the node. -/
theorem MapNode.evaluate_ok {domain codomain : Kind β} {node : MapNode domain codomain}
    {front : List (Node β)} {signal signal' : Signal} {result : MapNode domain codomain × Bool}
    (h : node.evaluate front signal = .ok result signal') : result = node.refresh front := by
  unfold MapNode.evaluate at h
  unfold MapNode.refresh
  cases hsource : slot? domain front node.source with
  | none =>
    rw [hsource] at h
    exact (Run.pure_eq_ok h).1.symm
  | some source =>
    rw [hsource] at h
    dsimp only at h ⊢
    by_cases hseen : node.seen = some source.version
    · rw [if_pos hseen] at h ⊢
      exact (Run.pure_eq_ok h).1.symm
    · rw [if_neg hseen] at h ⊢
      obtain ⟨results, between, hresults, h⟩ := Run.bind_eq_ok h
      rw [← (Run.pure_eq_ok h).1, MapNode.results_ok hresults]

/-- An evaluation that is not cancelled refreshes the node. -/
theorem CombineNode.evaluate_ok {left right : Kind β} {node : CombineNode left right}
    {front : List (Node β)} {signal signal' : Signal} {result : CombineNode left right × Bool}
    (h : node.evaluate front signal = .ok result signal') : result = node.refresh front := by
  unfold CombineNode.evaluate at h
  unfold CombineNode.refresh
  cases hleft : slot? left front node.leftSource with
  | none =>
    rw [hleft] at h
    exact (Run.pure_eq_ok h).1.symm
  | some lefts =>
    cases hright : slot? right front node.rightSource with
    | none =>
      rw [hleft, hright] at h
      exact (Run.pure_eq_ok h).1.symm
    | some rights =>
      rw [hleft, hright] at h
      dsimp only at h ⊢
      by_cases hseen : node.seen = some (lefts.version, rights.version)
      · rw [if_pos hseen] at h ⊢
        exact (Run.pure_eq_ok h).1.symm
      · rw [if_neg hseen] at h ⊢
        obtain ⟨_, between, _, h⟩ := Run.bind_eq_ok h
        exact (Run.pure_eq_ok h).1.symm

/-- An evaluation that is not cancelled refreshes the node. -/
theorem Node.evaluate_ok {node : Node β} {front : List (Node β)} {signal signal' : Signal}
    {result : Node β × Bool} (h : node.evaluate front signal = .ok result signal') :
    result = node.refresh front := by
  cases node with
  | source kind inner => exact (Run.pure_eq_ok h).1.symm
  | output kind inner => exact (Run.pure_eq_ok h).1.symm
  | collect kind inner => exact (Run.pure_eq_ok h).1.symm
  | map domain codomain inner =>
    obtain ⟨next, between, hnext, h⟩ := Run.bind_eq_ok h
    rw [← (Run.pure_eq_ok h).1, MapNode.evaluate_ok hnext]
    rfl
  | combine left right inner =>
    obtain ⟨next, between, hnext, h⟩ := Run.bind_eq_ok h
    rw [← (Run.pure_eq_ok h).1, CombineNode.evaluate_ok hnext]
    rfl

/-- Refresh the marked nodes behind some others, from the front on. -/
def refreshAll (front : List (Node β)) : List (Node β × Bool) → List (Node β)
  | [] => front
  | (node, false) :: rest => refreshAll (front ++ [node]) rest
  | (node, true) :: rest => refreshAll (front ++ [(node.refresh front).1]) rest

/-- Refreshing keeps the number of nodes. -/
theorem length_refreshAll (front : List (Node β)) (rest : List (Node β × Bool)) :
    (refreshAll front rest).length = front.length + rest.length := by
  induction rest generalizing front with
  | nil => rfl
  | cons entry rest ih =>
    obtain ⟨node, mark⟩ := entry
    cases mark with
    | false =>
      rw [refreshAll, ih, List.length_append, List.length_cons, List.length_cons, List.length_nil]
      omega
    | true =>
      rw [refreshAll, ih, List.length_append, List.length_cons, List.length_cons, List.length_nil]
      omega

/-- A run refreshes the marked nodes up to some point and leaves the nodes behind it as they were;
when it is not cancelled it comes to the end. -/
theorem advance_nodes (front : List (Node β)) (summary : Summary) (rest : List (Node β × Bool))
    (signal : Signal) :
    ∃ done undone, rest = done ++ undone ∧
      (advance front summary rest signal).nodes =
        refreshAll front done ++ undone.map Prod.fst ∧
      ((advance front summary rest signal).outcome.isOk = true → undone = []) := by
  induction rest generalizing front summary signal with
  | nil => exact ⟨[], [], rfl, by simp [advance, refreshAll], fun _ => rfl⟩
  | cons entry rest ih =>
    obtain ⟨node, mark⟩ := entry
    cases mark with
    | false =>
      obtain ⟨done, undone, hrest, hnodes, hend⟩ := ih (front ++ [node]) summary signal
      exact ⟨(node, false) :: done, undone, by rw [hrest]; rfl, hnodes, hend⟩
    | true =>
      unfold advance
      split
      · rename_i next changed signal' hevaluate
        obtain ⟨_, between, _, hevaluate⟩ := Run.bind_eq_ok hevaluate
        have hnext : next = (node.refresh front).1 :=
          congrArg Prod.fst (Node.evaluate_ok hevaluate)
        obtain ⟨done, undone, hrest, hnodes, hend⟩ :=
          ih (front ++ [next]) (summary.count node next changed) signal'
        refine ⟨(node, true) :: done, undone, by rw [hrest]; rfl, ?_, hend⟩
        rw [hnodes, hnext]
        rfl
      · exact ⟨[], (node, true) :: rest, rfl, by simp [refreshAll], fun h => by cases h⟩

/-- Whatever holds of a graph and still holds when one of its nodes is refreshed holds when several
are. -/
theorem refreshAll_keeps {P : List (Node β) → Prop}
    (step : ∀ nodes id node, nodes[id]? = some node → P nodes →
      P (nodes.set id (node.refresh (nodes.take id)).1))
    (front : List (Node β)) (rest : List (Node β × Bool)) (behind : List (Node β))
    (h : P (front ++ rest.map Prod.fst ++ behind)) : P (refreshAll front rest ++ behind) := by
  induction rest generalizing front with
  | nil => simpa [refreshAll] using h
  | cons entry rest ih =>
    obtain ⟨node, mark⟩ := entry
    have hnode : P (front ++ node :: (rest.map Prod.fst ++ behind)) := by simpa using h
    cases mark with
    | false => exact ih (front ++ [node]) (by simpa using hnode)
    | true =>
      have hnext := step _ front.length node (by simp) hnode
      rw [List.take_left, List.set_append_right _ _ (Nat.le_refl _), Nat.sub_self] at hnext
      exact ih (front ++ [(node.refresh front).1]) (by simpa using hnext)

/-- Whatever holds of a graph and still holds when one of its nodes is refreshed holds behind every
run, complete or cancelled. -/
theorem StageGraph.run_keeps {P : List (Node β) → Prop}
    (step : ∀ nodes id node, nodes[id]? = some node → P nodes →
      P (nodes.set id (node.refresh (nodes.take id)).1))
    (graph : StageGraph β) (signal : Signal) (h : P graph.nodes) :
    P (graph.run signal).1.nodes := by
  obtain ⟨done, undone, hrest, hnodes, _⟩ :=
    advance_nodes [] {} (graph.nodes.zip (demanded graph.nodes)) signal
  have hlength : graph.nodes.length ≤ (demanded graph.nodes).length :=
    Nat.le_of_eq (length_demandedAfter graph.nodes graph.nodes.length).symm
  have hall : done.map Prod.fst ++ undone.map Prod.fst = graph.nodes := by
    rw [← List.map_append, ← hrest, List.map_fst_zip hlength]
  change P (advance [] {} (graph.nodes.zip (demanded graph.nodes)) signal).nodes
  rw [hnodes]
  exact refreshAll_keeps step [] done (undone.map Prod.fst) (by simpa [hall] using h)

/-- The nodes in front stay in front. -/
theorem prefix_refreshAll (front : List (Node β)) (rest : List (Node β × Bool)) :
    front <+: refreshAll front rest := by
  induction rest generalizing front with
  | nil => exact List.prefix_rfl
  | cons entry rest ih =>
    obtain ⟨node, mark⟩ := entry
    cases mark with
    | false => exact (List.prefix_append front [node]).trans (ih (front ++ [node]))
    | true =>
      exact (List.prefix_append front [(node.refresh front).1]).trans
        (ih (front ++ [(node.refresh front).1]))

/-- Each node behind the front is refreshed against the result so far, if it is marked. -/
theorem refreshAll_getElem? (front : List (Node β)) (rest : List (Node β × Bool)) {index : Nat}
    {node : Node β} {mark : Bool} (h : rest[index]? = some (node, mark)) :
    (refreshAll front rest)[front.length + index]? =
      some (if mark then
        (node.refresh ((refreshAll front rest).take (front.length + index))).1 else node) := by
  induction rest generalizing front index with
  | nil => simp at h
  | cons entry rest ih =>
    obtain ⟨first, firstMark⟩ := entry
    cases index with
    | succ index =>
      rw [List.getElem?_cons_succ] at h
      have hlater : ∀ next : Node β,
          front.length + (index + 1) = (front ++ [next]).length + index :=
        fun next => by simp only [List.length_append, List.length_cons, List.length_nil]; omega
      cases firstMark with
      | false => rw [refreshAll, hlater first]; exact ih (front ++ [first]) h
      | true =>
        rw [refreshAll, hlater (first.refresh front).1]
        exact ih (front ++ [(first.refresh front).1]) h
    | zero =>
      obtain ⟨rfl, rfl⟩ : first = node ∧ firstMark = mark := by simpa using h
      cases firstMark with
      | false =>
        obtain ⟨behind, hbehind⟩ := prefix_refreshAll (front ++ [first]) rest
        simp [refreshAll, ← hbehind]
      | true =>
        obtain ⟨behind, hbehind⟩ := prefix_refreshAll (front ++ [(first.refresh front).1]) rest
        simp [refreshAll, ← hbehind]

/-- Behind a run that is not cancelled every demanded node has been refreshed against the nodes that
are then in front of it, and every other node is as it was. -/
theorem StageGraph.run_ok_getElem? {graph : StageGraph β} {signal : Signal} {summary : Summary}
    (hok : (graph.run signal).2.2 = .ok summary) {id : Nat} {node : Node β} {mark : Bool}
    (hnode : graph.nodes[id]? = some node) (hmark : (demanded graph.nodes)[id]? = some mark) :
    (graph.run signal).1.nodes[id]? =
      some (if mark then (node.refresh ((graph.run signal).1.nodes.take id)).1 else node) := by
  obtain ⟨done, undone, hrest, hnodes, hend⟩ :=
    advance_nodes [] {} (graph.nodes.zip (demanded graph.nodes)) signal
  have houtcome : (advance [] {} (graph.nodes.zip (demanded graph.nodes)) signal).outcome =
      .ok summary := hok
  have hundone : undone = [] := hend (by rw [houtcome]; rfl)
  have hafter : (graph.run signal).1.nodes =
      refreshAll [] (graph.nodes.zip (demanded graph.nodes)) := by
    change (advance [] {} (graph.nodes.zip (demanded graph.nodes)) signal).nodes = _
    rw [hnodes, hrest, hundone]
    simp
  have hentry : (graph.nodes.zip (demanded graph.nodes))[id]? = some (node, mark) :=
    List.getElem?_zip_eq_some.mpr ⟨hnode, hmark⟩
  have h := refreshAll_getElem? [] (graph.nodes.zip (demanded graph.nodes)) hentry
  rw [hafter]
  simpa using h

end TemplateCodegen.Incremental
