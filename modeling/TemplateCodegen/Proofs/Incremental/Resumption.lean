import TemplateCodegen.Proofs.Incremental.Polling
import TemplateCodegen.Proofs.Incremental.QuietRun
import TemplateCodegen.Proofs.Incremental.Session

/-!
# Runs that are given up

A run that is given up has refreshed some first part of the graph and left the rest as it was.
Refreshing a node twice against the same nodes is refreshing it once, so the next run finds nothing
to do in that part and goes on behind it. Main statement: whatever state a graph is in and wherever
its run is given up, a complete run afterwards leaves the graph that a complete run alone leaves,
and in between nothing can be taken (`StageGraph.resumes`).

A stage function is steady when the number of its polls depends on the element alone and a poll that
finds the request is the only reason to give up. A run of steady stages is timed: a certain number
of polls lies in front of the end of each node, the nodes whose polls pass are brought up to date,
and the run is given up exactly when the request is there for one of its polls.
-/

namespace TemplateCodegen.Incremental

/-! ## Steady stages -/

/-- A computation whose polls are counted passes under an inert token. -/
theorem Run.Polls.passes {α : Type} {computation : Run α} {polls : Nat} {value : α}
    (h : computation.Polls polls value) : computation.Passes := by
  intro spent
  have hinert := h .inert spent
  rw [Token.after_inert] at hinert
  exact ⟨value, hinert⟩

/-- The number of polls of the stage function depends on the element alone, and the function gives
up only at one that finds the request. -/
def StageFn.IsSteady {α γ : Type} (fn : StageFn α γ) : Prop :=
  ∀ element, ∃ polls, (fn.compute element).Polls polls (fn.value element)

/-- A function that does not poll is steady. -/
theorem StageFn.isSteady_ofPure {α γ : Type} (f : α → List γ) : (ofPure f).IsSteady :=
  fun element => ⟨0, .pure (f element)⟩

/-- A function behind a check is steady when the polls of the check are counted. -/
theorem StageFn.isSteady_guarded {α γ : Type} {guard : α → Run Unit} {f : α → List γ}
    (h : ∀ element, ∃ polls, (guard element).Polls polls ()) : (guarded guard f).IsSteady := by
  intro element
  obtain ⟨polls, hpolls⟩ := h element
  refine ⟨polls, fun token spent => ?_⟩
  have hguard := hpolls token spent
  unfold guarded
  dsimp only
  cases hafter : token.after polls with
  | none =>
    rw [hafter] at hguard
    obtain ⟨signal, hsignal⟩ := hguard
    rw [hsignal]
    exact ⟨signal, rfl⟩
  | some next =>
    rw [hafter] at hguard
    dsimp only at hguard
    rw [hguard]

variable {β : Type} [Payload β]

/-- The function of the stage, if there is one, is steady. -/
def Stage.IsSteady : Stage β → Prop
  | .map _ _ _ fn => fn.IsSteady
  | _ => True

/-- A steady stage is never cancelled but by a poll. -/
theorem Stage.IsSteady.isWilling {stage : Stage β} (h : stage.IsSteady) : stage.IsWilling := by
  cases stage with
  | map domain codomain input fn =>
    intro element
    obtain ⟨polls, hpolls⟩ := h element
    exact hpolls.passes
  | source kind => trivial
  | combine left right leftInput rightInput => trivial
  | collect kind input => trivial
  | output kind input => trivial

/-- The polls for the results of all elements are counted. -/
theorem MapNode.exists_polls_results {domain codomain : Kind β} {node : MapNode domain codomain}
    (h : node.fn.IsSteady) (index : Nat) (elements : List domain.Val) :
    ∃ polls results, (node.results index elements).Polls polls results := by
  induction elements generalizing index with
  | nil => exact ⟨0, [], .pure []⟩
  | cons element rest ih =>
    have hresult : ∃ polls result, (node.resultOf index element).Polls polls result := by
      unfold resultOf
      cases node.cached? index element with
      | some result => exact ⟨_, _, Run.Polls.poll.bind (.pure (result, false))⟩
      | none =>
        obtain ⟨polls, hpolls⟩ := h element
        exact ⟨_, _, Run.Polls.poll.bind (hpolls.bind (.pure (node.fn.value element, true)))⟩
    obtain ⟨polls, first, hfirst⟩ := hresult
    obtain ⟨more, others, hothers⟩ := ih (index + 1)
    exact ⟨_, _, hfirst.bind (hothers.bind (.pure (first :: others)))⟩

variable [DecidableEq β]

/-- The polls of the evaluation of a steady node are counted. -/
theorem Node.exists_polls_evaluate {node : Node β} (h : node.stage.IsSteady)
    (front : List (Node β)) : ∃ polls result, (node.evaluate front).Polls polls result := by
  cases node with
  | source kind inner => exact ⟨_, _, .pure _⟩
  | output kind inner => exact ⟨_, _, .pure _⟩
  | collect kind inner => exact ⟨_, _, .pure _⟩
  | map domain codomain inner =>
    have hinner : ∃ polls result, (inner.evaluate front).Polls polls result := by
      unfold MapNode.evaluate
      split
      · exact ⟨_, _, .pure _⟩
      · split
        · exact ⟨_, _, .pure _⟩
        · obtain ⟨polls, results, hresults⟩ := MapNode.exists_polls_results h 0 _
          exact ⟨_, _, hresults.bind (.pure _)⟩
    obtain ⟨polls, result, hpolls⟩ := hinner
    exact ⟨_, _, hpolls.bind (.pure _)⟩
  | combine left right inner =>
    have hinner : ∃ polls result, (inner.evaluate front).Polls polls result := by
      unfold CombineNode.evaluate
      split
      · split
        · exact ⟨_, _, .pure _⟩
        · exact ⟨_, _, Run.Polls.poll.bind (.pure _)⟩
      · exact ⟨_, _, .pure _⟩
    obtain ⟨polls, result, hpolls⟩ := hinner
    exact ⟨_, _, hpolls.bind (.pure _)⟩

/-- A run over some nodes is timed by the polls that it has made when it is done with the first so
many of them. -/
structure Timetable (front : List (Node β)) (rest : List (Node β × Bool)) (polls : Nat → Nat) :
    Prop where
  /-- There is no poll in front of the first node. -/
  start : polls 0 = 0
  /-- The polls for a node come behind those for the nodes in front of it. -/
  le_succ : ∀ place, polls place ≤ polls (place + 1)
  /-- A node that is asked for takes a poll. -/
  lt_succ : ∀ place node, rest[place]? = some (node, true) → polls place < polls (place + 1)
  /-- A run is done with the nodes whose polls have passed, and with no others. -/
  cut : ∀ (summary : Summary) (token : Token) (spent : List Nat), ∃ done undone,
    rest = done ++ undone ∧
    (advance front summary rest ⟨token, spent⟩).nodes =
      refreshAll front done ++ undone.map Prod.fst ∧
    (advance front summary rest ⟨token, spent⟩).outcome.isOk =
      (token.after (polls rest.length)).isSome ∧
    ∀ place, place < rest.length →
      (place < done.length ↔ (token.after (polls (place + 1))).isSome = true)

namespace Timetable

variable {front : List (Node β)} {rest : List (Node β × Bool)} {polls : Nat → Nat}

/-- The polls up to behind a node come behind those up to behind any node in front of it. -/
theorem le (h : Timetable front rest polls) {one other : Nat} (hle : one ≤ other) :
    polls one ≤ polls other := by
  induction hle with
  | refl => exact Nat.le_refl _
  | @step between _ ih => exact Nat.le_trans ih (h.le_succ between)

/-- Where a node in between is asked for, there are more polls behind it. -/
theorem lt (h : Timetable front rest polls) {one other place : Nat} {node : Node β}
    (hplace : rest[place]? = some (node, true)) (hone : one ≤ place) (hother : place < other) :
    polls one < polls other :=
  Nat.lt_of_le_of_lt (h.le hone) (Nat.lt_of_lt_of_le (h.lt_succ place node hplace) (h.le hother))

end Timetable

/-- The polls in front of a list that has one more node at its head. -/
def pollsBehind (first : Nat) (polls : Nat → Nat) : Nat → Nat
  | 0 => 0
  | place + 1 => first + polls place

/-- A node that is not asked for takes no poll. -/
theorem Timetable.skip {front : List (Node β)} {node : Node β} {rest : List (Node β × Bool)}
    {polls : Nat → Nat} (h : Timetable (front ++ [node]) rest polls) :
    Timetable front ((node, false) :: rest) (pollsBehind 0 polls) where
  start := rfl
  le_succ
    | 0 => Nat.zero_le _
    | place + 1 => Nat.add_le_add_left (h.le_succ place) 0
  lt_succ
    | 0, _, hplace => nomatch hplace
    | place + 1, other, hplace => Nat.add_lt_add_left (h.lt_succ place other hplace) 0
  cut summary token spent := by
    obtain ⟨done, undone, rfl, hnodes, hend, hdone⟩ := h.cut summary token spent
    refine ⟨(node, false) :: done, undone, rfl, hnodes, ?_, fun place hplace => ?_⟩
    · rw [List.length_cons, pollsBehind, Nat.zero_add]
      exact hend
    · rw [pollsBehind, Nat.zero_add, List.length_cons]
      cases place with
      | zero => simp [h.start, Token.after]
      | succ place =>
        rw [Nat.add_lt_add_iff_right]
        exact hdone place (Nat.lt_of_succ_lt_succ hplace)

/-- A node that is asked for takes one poll in front of its evaluation and those of the evaluation.
-/
theorem Timetable.visit {front : List (Node β)} {node : Node β} {rest : List (Node β × Bool)}
    {first : Nat} {result : Node β × Bool} {polls : Nat → Nat}
    (hnode : (node.evaluate front).Polls first result)
    (h : Timetable (front ++ [result.1]) rest polls) :
    Timetable front ((node, true) :: rest) (pollsBehind (1 + first) polls) where
  start := rfl
  le_succ
    | 0 => Nat.zero_le _
    | place + 1 => Nat.add_le_add_left (h.le_succ place) _
  lt_succ
    | 0, _, _ => by simp only [pollsBehind]; omega
    | place + 1, other, hplace => Nat.add_lt_add_left (h.lt_succ place other hplace) _
  cut summary token spent := by
    have hstart := (Run.Polls.poll.bind hnode :
      (do Run.poll; node.evaluate front : Run (Node β × Bool)).Polls (1 + first) result) token spent
    rw [advance, List.length_cons, pollsBehind, Token.after_add]
    cases hafter : token.after (1 + first) with
    | none =>
      -- The request is there for a poll of this node: the run stops in front of it.
      rw [hafter] at hstart
      obtain ⟨signal, hsignal⟩ := hstart
      rw [hsignal]
      refine ⟨[], (node, true) :: rest, rfl, rfl, rfl, fun place _ => ?_⟩
      rw [pollsBehind, Token.after_add, hafter]
      simp
    | some between =>
      rw [hafter] at hstart
      dsimp only at hstart
      rw [hstart]
      have hrefresh : result = node.refresh front := by
        obtain ⟨_, _, _, hevaluate⟩ := Run.bind_eq_ok hstart
        exact Node.evaluate_ok hevaluate
      obtain ⟨next, changed⟩ := result
      obtain ⟨done, undone, rfl, hnodes, hend, hdone⟩ :=
        h.cut (summary.count node next changed) between spent
      refine ⟨(node, true) :: done, undone, rfl, ?_, hend, fun place hplace => ?_⟩
      · rw [refreshAll, ← hrefresh]
        exact hnodes
      · rw [pollsBehind, Token.after_add, hafter, Option.bind_some, List.length_cons]
        cases place with
        | zero => simp [h.start, Token.after]
        | succ place =>
          rw [Nat.add_lt_add_iff_right]
          exact hdone place (Nat.lt_of_succ_lt_succ hplace)

/-- A run over steady nodes is timed. -/
theorem exists_timetable {rest : List (Node β × Bool)}
    (h : ∀ entry ∈ rest, entry.1.stage.IsSteady) (front : List (Node β)) :
    ∃ polls, Timetable front rest polls := by
  induction rest generalizing front with
  | nil =>
    exact ⟨fun _ => 0,
      { start := rfl
        le_succ := fun _ => Nat.le_refl 0
        lt_succ := nofun
        cut := fun _ _ _ => ⟨[], [], rfl, (List.append_nil front).symm, rfl, nofun⟩ }⟩
  | cons entry rest ih =>
    obtain ⟨node, mark⟩ := entry
    have hrest := ih fun other hother => h other (List.mem_cons_of_mem _ hother)
    cases mark with
    | false =>
      obtain ⟨polls, hpolls⟩ := hrest (front ++ [node])
      exact ⟨_, hpolls.skip⟩
    | true =>
      obtain ⟨first, result, hnode⟩ :=
        Node.exists_polls_evaluate (h (node, true) List.mem_cons_self) front
      obtain ⟨polls, hpolls⟩ := hrest (front ++ [result.1])
      exact ⟨_, hpolls.visit hnode⟩

/-! ## Refreshing twice -/

/-- A node that has seen its input stays as it is. -/
theorem MapNode.refresh_of_seen {domain codomain : Kind β} {node : MapNode domain codomain}
    {front : List (Node β)} {source : Slot domain.Val}
    (hsource : slot? domain front node.source = some source)
    (hseen : node.seen = some source.version) : node.refresh front = (node, false) := by
  simp [MapNode.refresh, hsource, hseen]

/-- A node that has seen its inputs stays as it is. -/
theorem CombineNode.refresh_of_seen {left right : Kind β} {node : CombineNode left right}
    {front : List (Node β)} {lefts : Slot left.Val} {rights : Slot right.Val}
    (hlefts : slot? left front node.leftSource = some lefts)
    (hrights : slot? right front node.rightSource = some rights)
    (hseen : node.seen = some (lefts.version, rights.version)) :
    node.refresh front = (node, false) := by
  simp [CombineNode.refresh, hlefts, hrights, hseen]

/-- A node that has seen its input stays as it is. -/
theorem CollectNode.evaluate_of_seen {kind : Kind β} {node : CollectNode kind}
    {front : List (Node β)} {source : Slot kind.Val}
    (hsource : slot? kind front node.source = some source)
    (hseen : node.seen = some source.version) : node.evaluate front = (node, false) := by
  simp [CollectNode.evaluate, hsource, hseen]

/-- Refreshing a node twice against the same nodes is refreshing it once. -/
theorem Node.refresh_refresh (node : Node β) (front : List (Node β)) :
    ((node.refresh front).1.refresh front).1 = (node.refresh front).1 := by
  cases node with
  | source kind inner => rfl
  | output kind inner => rfl
  | map domain codomain inner =>
    rcases inner.refresh_cases front with ⟨_, h⟩ | ⟨source, hsource, ⟨_, h⟩ | ⟨_, h⟩⟩
    · simp [Node.refresh, h]
    · simp [Node.refresh, h]
    · have hagain : (inner.commit source (inner.resultsFrom 0 source.values)).1.refresh front =
          ((inner.commit source (inner.resultsFrom 0 source.values)).1, false) :=
        MapNode.refresh_of_seen hsource rfl
      simp [Node.refresh, h, hagain]
  | combine left right inner =>
    rcases inner.refresh_cases front with
      ⟨_, h⟩ | ⟨lefts, rights, hlefts, hrights, ⟨_, h⟩ | ⟨_, h⟩⟩
    · simp [Node.refresh, h]
    · simp [Node.refresh, h]
    · have hagain : (inner.commit lefts rights).1.refresh front =
          ((inner.commit lefts rights).1, false) :=
        CombineNode.refresh_of_seen hlefts hrights rfl
      simp [Node.refresh, h, hagain]
  | collect kind inner =>
    rcases inner.refresh_cases front with ⟨_, h⟩ | ⟨source, hsource, ⟨_, h⟩ | ⟨_, h⟩⟩
    · simp [Node.refresh, h]
    · simp [Node.refresh, h]
    · have hagain : (inner.commit source).1.evaluate front = ((inner.commit source).1, false) :=
        CollectNode.evaluate_of_seen hsource rfl
      simp [Node.refresh, h, hagain]

/-- Some nodes are refreshed, and then some others behind them. -/
theorem refreshAll_append (front : List (Node β)) (done undone : List (Node β × Bool)) :
    refreshAll front (done ++ undone) = refreshAll (refreshAll front done) undone := by
  induction done generalizing front with
  | nil => rfl
  | cons entry rest ih =>
    obtain ⟨node, mark⟩ := entry
    cases mark with
    | false => exact ih (front ++ [node])
    | true => exact ih (front ++ [(node.refresh front).1])

/-- What has been refreshed, under the same marks, is left as it is when it is refreshed again. -/
theorem exists_refreshAll_again (front : List (Node β)) (rest : List (Node β × Bool)) :
    ∃ again, again.map Prod.snd = rest.map Prod.snd ∧
      refreshAll front rest = front ++ again.map Prod.fst ∧
      refreshAll front again = refreshAll front rest := by
  induction rest generalizing front with
  | nil => exact ⟨[], rfl, (List.append_nil front).symm, rfl⟩
  | cons entry rest ih =>
    obtain ⟨node, mark⟩ := entry
    cases mark with
    | false =>
      obtain ⟨again, hmarks, hnodes, hagain⟩ := ih (front ++ [node])
      refine ⟨(node, false) :: again, by simp [hmarks], ?_, hagain⟩
      rw [refreshAll, hnodes]
      simp
    | true =>
      obtain ⟨again, hmarks, hnodes, hagain⟩ := ih (front ++ [(node.refresh front).1])
      refine ⟨((node.refresh front).1, true) :: again, by simp [hmarks], ?_, ?_⟩
      · rw [refreshAll, hnodes]
        simp
      · rw [refreshAll, refreshAll, node.refresh_refresh]
        exact hagain

/-! ## Which nodes are asked for -/

omit [DecidableEq β] in
/-- Which nodes are asked for depends on the stages alone. -/
theorem demandedAfter_congr {nodes nodes' : List (Node β)}
    (h : nodes.map Node.stage = nodes'.map Node.stage) (rounds : Nat) :
    demandedAfter nodes rounds = demandedAfter nodes' rounds := by
  induction rounds with
  | zero =>
    have houtputs := congrArg (List.map Stage.isOutput) h
    simpa [demandedAfter, Node.isOutput_stage, Function.comp_def] using houtputs
  | succ rounds ih =>
    have hinputs : ∀ (items : List (Node β)) (marks : List Bool),
        (items.zip marks).flatMap (fun entry => if entry.2 then entry.1.inputs else []) =
          ((items.map Node.stage).zip marks).flatMap
            (fun entry => if entry.2 then entry.1.inputs else []) := by
      intro items marks
      simp [List.zip_map_left, List.flatMap_map, Node.inputs_stage]
    simp only [demandedAfter, ih, hinputs nodes, hinputs nodes', h]

omit [DecidableEq β] in
/-- Which nodes an output depends on is a matter of the stages alone. -/
theorem demanded_congr {nodes nodes' : List (Node β)}
    (h : nodes.map Node.stage = nodes'.map Node.stage) : demanded nodes = demanded nodes' := by
  have hlength : nodes.length = nodes'.length := by simpa using congrArg List.length h
  rw [demanded, demanded, hlength]
  exact demandedAfter_congr h nodes'.length

/-! ## Runs one behind the other -/

namespace StageGraph

/-- The nodes of a graph with the marks of those that are asked for. -/
def agenda (graph : StageGraph β) : List (Node β × Bool) :=
  graph.nodes.zip (demanded graph.nodes)

omit [DecidableEq β] in
/-- The nodes of the agenda are those of the graph. -/
theorem map_fst_agenda (graph : StageGraph β) : graph.agenda.map Prod.fst = graph.nodes :=
  List.map_fst_zip (Nat.le_of_eq (length_demandedAfter graph.nodes graph.nodes.length).symm)

omit [DecidableEq β] in
/-- The marks of the agenda are those of the nodes that are asked for. -/
theorem map_snd_agenda (graph : StageGraph β) :
    graph.agenda.map Prod.snd = demanded graph.nodes :=
  List.map_snd_zip (Nat.le_of_eq (length_demandedAfter graph.nodes graph.nodes.length))

omit [DecidableEq β] in
/-- There is one entry of the agenda for each node. -/
theorem length_agenda (graph : StageGraph β) : graph.agenda.length = graph.nodes.length := by
  rw [← graph.map_fst_agenda, List.length_map]

/-- A run of steady stages is timed. -/
theorem exists_timetable {graph : StageGraph β} (h : ∀ stage ∈ graph.stages, stage.IsSteady) :
    ∃ polls, Timetable [] graph.agenda polls := by
  refine Incremental.exists_timetable (fun entry hentry => h entry.1.stage ?_) []
  have hnode : entry.1 ∈ graph.nodes := (List.of_mem_zip hentry).1
  exact List.mem_map_of_mem hnode

/-- A run of steady stages makes a certain number of polls: it is given up exactly when the request
is there for one of them. -/
theorem exists_polls_run {graph : StageGraph β} (h : ∀ stage ∈ graph.stages, stage.IsSteady) :
    ∃ polls, ∀ token spent,
      (graph.run ⟨token, spent⟩).2.2.isOk = (token.after polls).isSome := by
  obtain ⟨polls, hpolls⟩ := exists_timetable h
  refine ⟨polls graph.agenda.length, fun token spent => ?_⟩
  obtain ⟨_, _, _, _, hend, _⟩ := hpolls.cut {} token spent
  exact hend

/-- A timed run brings a node up to date when the polls up to behind the node pass, and else leaves
it as it was. -/
theorem getElem?_run {graph : StageGraph β} {polls : Nat → Nat}
    (h : Timetable [] graph.agenda polls) (token : Token) (spent : List Nat) {id : Nat}
    (hid : id < graph.nodes.length) :
    (graph.run ⟨token, spent⟩).1.nodes[id]? =
      if (token.after (polls (id + 1))).isSome = true then (refreshAll [] graph.agenda)[id]?
      else graph.nodes[id]? := by
  obtain ⟨done, undone, hagenda, hnodes, _, hdone⟩ := h.cut {} token spent
  have hall : graph.nodes = done.map Prod.fst ++ undone.map Prod.fst := by
    rw [← List.map_append, ← hagenda, map_fst_agenda]
  have hrun : (graph.run ⟨token, spent⟩).1.nodes =
      refreshAll [] done ++ undone.map Prod.fst := hnodes
  have hfront : (refreshAll [] done).length = done.length := by
    rw [length_refreshAll, List.length_nil, Nat.zero_add]
  have hplace := hdone id (graph.length_agenda ▸ hid)
  rw [hrun]
  split
  · rename_i hpassed
    have hlt := hfront ▸ hplace.mpr hpassed
    rw [hagenda, refreshAll_append, List.getElem?_append_left hlt]
    obtain ⟨behind, hbehind⟩ := prefix_refreshAll (refreshAll [] done) undone
    rw [← hbehind, List.getElem?_append_left hlt]
  · rename_i hstopped
    have hle : done.length ≤ id := Nat.le_of_not_lt fun hlt => hstopped (hplace.mp hlt)
    rw [hall, List.getElem?_append_right (hfront ▸ hle),
      List.getElem?_append_right (by rw [List.length_map]; exact hle), hfront, List.length_map]

/-- A complete run refreshes the whole agenda. -/
theorem run_of_isOk {graph : StageGraph β} {signal : Signal}
    (hok : (graph.run signal).2.2.isOk = true) :
    (graph.run signal).1 =
      { graph with nodes := refreshAll [] graph.agenda, isComplete := true } := by
  obtain ⟨done, undone, hrest, hnodes, hend⟩ := advance_nodes [] {} graph.agenda signal
  have houtcome : (advance [] {} graph.agenda signal).outcome.isOk = true := hok
  obtain rfl : undone = [] := hend houtcome
  change { graph with
    nodes := (advance [] {} graph.agenda signal).nodes
    isComplete := (advance [] {} graph.agenda signal).outcome.isOk } = _
  rw [houtcome, hnodes, hrest]
  simp

/-- Behind any run, complete or given up, refreshing the whole agenda gives what it gives in front
of it. -/
theorem refreshAll_agenda_run (graph : StageGraph β) (signal : Signal) :
    refreshAll [] (graph.run signal).1.agenda = refreshAll [] graph.agenda := by
  obtain ⟨done, undone, hrest, hnodes, _⟩ := advance_nodes [] {} graph.agenda signal
  obtain ⟨again, hmarks, hdone, hagain⟩ := exists_refreshAll_again [] done
  -- The agenda behind the run: the same marks, with the nodes that have been refreshed.
  have hafter : (graph.run signal).1.agenda = again ++ undone := by
    have hfirst : (graph.run signal).1.nodes = (again ++ undone).map Prod.fst := by
      change (advance [] {} graph.agenda signal).nodes = _
      rw [hnodes, hdone, List.nil_append, List.map_append]
    have hsecond : demanded (graph.run signal).1.nodes = (again ++ undone).map Prod.snd := by
      rw [demanded_congr (graph.stages_run signal), ← map_snd_agenda, hrest, List.map_append,
        List.map_append, hmarks]
    rw [agenda, hsecond, hfirst, ← List.unzip_fst, ← List.unzip_snd, List.zip_unzip]
  rw [hafter, hrest, refreshAll_append, refreshAll_append, hagain]

/-- A complete run behind any other run leaves the graph that it leaves alone. -/
theorem run_run {graph : StageGraph β} {signal again alone : Signal}
    (hagain : ((graph.run signal).1.run again).2.2.isOk = true)
    (halone : (graph.run alone).2.2.isOk = true) :
    ((graph.run signal).1.run again).1 = (graph.run alone).1 := by
  rw [run_of_isOk hagain, run_of_isOk halone, refreshAll_agenda_run]
  rfl

/-- Behind a run that is given up nothing is pending and nothing can be taken. -/
theorem take_of_given_up {graph : StageGraph β} {signal : Signal} {error : Cancelled}
    (h : (graph.run signal).2.2 = .error error) {kind : Kind β} (output : Output kind) :
    (graph.run signal).1.pending? output = none ∧
      (graph.run signal).1.take output = ((graph.run signal).1, none) := by
  have hcomplete : (graph.run signal).1.isComplete = false := by
    change (graph.run signal).2.2.isOk = false
    rw [h]
    rfl
  have hpending := pending?_of_not_complete output hcomplete
  exact ⟨hpending, by rw [take, hpending]⟩

/-- Whatever state a graph is in and wherever its run is given up: until the next run nothing is
pending and nothing can be taken at any output, and a complete run leaves the graph, with all that
its nodes remember and count, as a complete run alone leaves it. A run under a token that is never
used is complete when no stage gives up but at a poll, both behind the other run and alone. Where
the polls of the stages are counted, a run makes a certain number of them, and each of them is a
place where it can be given up. -/
theorem resumes (graph : StageGraph β) :
    (∀ signal error, (graph.run signal).2.2 = .error error →
      (∀ (kind : Kind β) (output : Output kind),
        (graph.run signal).1.pending? output = none ∧
          (graph.run signal).1.take output = ((graph.run signal).1, none)) ∧
      (∀ again alone, ((graph.run signal).1.run again).2.2.isOk = true →
        (graph.run alone).2.2.isOk = true →
          ((graph.run signal).1.run again).1 = (graph.run alone).1) ∧
      ((∀ stage ∈ graph.stages, stage.IsWilling) → ∀ spent,
        ((graph.run signal).1.run ⟨.inert, spent⟩).2.2.isOk = true ∧
          (graph.run ⟨.inert, spent⟩).2.2.isOk = true)) ∧
    ((∀ stage ∈ graph.stages, stage.IsSteady) → ∃ polls, ∀ remaining spent,
      (graph.run ⟨.live (some remaining), spent⟩).2.2 = .error .cancelled ↔
        remaining < polls) := by
  refine ⟨fun signal error herror => ⟨fun kind output => take_of_given_up herror output,
    fun again alone hagain halone => run_run hagain halone, fun hwilling spent => ?_⟩,
    fun hsteady => ?_⟩
  · have hstages : ∀ stage ∈ (graph.run signal).1.stages, stage.IsWilling := by
      rw [graph.stages_run signal]
      exact hwilling
    obtain ⟨again, hagain⟩ := run_passes hstages spent
    obtain ⟨alone, halone⟩ := run_passes hwilling spent
    rw [hagain, halone]
    exact ⟨rfl, rfl⟩
  · obtain ⟨polls, hpolls⟩ := exists_polls_run hsteady
    refine ⟨polls, fun remaining spent => ?_⟩
    have hrun := hpolls (.live (some remaining)) spent
    have hlive := Token.isSome_after_live polls remaining
    rw [← hrun] at hlive
    cases houtcome : (graph.run ⟨.live (some remaining), spent⟩).2.2 with
    | ok summary =>
      rw [houtcome] at hlive
      have hle : polls ≤ remaining := hlive.mp rfl
      exact ⟨nofun, fun hlt => absurd hle (Nat.not_le.mpr hlt)⟩
    | error error =>
      rw [houtcome] at hlive
      have hnot : ¬ polls ≤ remaining := fun hle => nomatch hlive.mpr hle
      exact ⟨fun _ => Nat.lt_of_not_le hnot, fun _ => rfl⟩

/-! ## A graph whose function polls -/

/-- A function that polls before it increases a number. -/
def checkedIncrease : StageFn Session.Plain.numbers.Val Session.Plain.numbers.Val :=
  .guarded (fun _ => Run.poll) fun item => [Session.Plain.increase item]

/-- A source of a few numbers, each of them increased behind a poll, all of them gathered and handed
out. -/
def checking : StageGraph Session.Plain :=
  let wiring : StateM (StageGraph Session.Plain) (Source Session.Plain.numbers) := do
    let numbers ← StageGraph.source Session.Plain.numbers
    let increased ← StageGraph.tryMap Session.Plain.numbers numbers.values checkedIncrease
    let all ← StageGraph.collect increased
    let _ ← StageGraph.output all
    return numbers
  let (numbers, graph) := wiring.run .empty
  (graph.setSource numbers Session.Plain.few).1

/-- The stages of the graph are steady. -/
theorem checking_isSteady : ∀ stage ∈ checking.stages, stage.IsSteady := by
  have hstages : checking.stages =
      [.source Session.Plain.numbers,
        .map Session.Plain.numbers Session.Plain.numbers 0 checkedIncrease,
        .collect Session.Plain.numbers 1, .output (.list Session.Plain.numbers) 2] := rfl
  have hmap : checkedIncrease.IsSteady :=
    StageFn.isSteady_guarded fun _ => ⟨1, Run.Polls.poll⟩
  intro stage hstage
  rw [hstages] at hstage
  simp only [List.mem_cons, List.not_mem_nil, or_false] at hstage
  rcases hstage with rfl | rfl | rfl | rfl
  · trivial
  · exact hmap
  · trivial
  · trivial

/-- A run that is given up by the function itself, at the first element, and the next run. -/
theorem checking_resumes :
    (checking.run ⟨.live (some 3), []⟩).2.2 = .error .cancelled ∧
      ((checking.run ⟨.live (some 3), []⟩).1.run .quiet).2.2.isOk = true ∧
      (checking.run .quiet).2.2.isOk = true ∧
      ((checking.run ⟨.live (some 3), []⟩).1.run .quiet).1 = (checking.run .quiet).1 ∧
      (∀ stage ∈ checking.stages, stage.IsWilling) ∧
      (∀ stage ∈ checking.stages, stage.IsSteady) ∧
      ∃ polls, ∀ remaining spent,
        (checking.run ⟨.live (some remaining), spent⟩).2.2 = .error .cancelled ↔
          remaining < polls := by
  have herror : (checking.run ⟨.live (some 3), []⟩).2.2 = .error .cancelled := rfl
  have hwilling : ∀ stage ∈ checking.stages, stage.IsWilling :=
    fun stage hstage => (checking_isSteady stage hstage).isWilling
  obtain ⟨_, hsame, hcomplete⟩ := (resumes checking).1 _ _ herror
  obtain ⟨hagain, halone⟩ := hcomplete hwilling []
  exact ⟨herror, hagain, halone, hsame .quiet .quiet hagain halone, hwilling, checking_isSteady,
    (resumes checking).2 checking_isSteady⟩

end StageGraph

end TemplateCodegen.Incremental
