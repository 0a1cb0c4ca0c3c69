import TemplateCodegen.Proofs.Incremental.History
import TemplateCodegen.Proofs.Incremental.Resumption

/-!
# What a run evaluates, applies and counts

A stage is due when an output depends on it and it has never been evaluated, or an input has another
version than it had where the stage was evaluated last. Main statements: refreshing a node evaluates
it when it is stale and leaves it when it is not (`Node.Recalls.refresh_cases`), an evaluation
applies the function to the elements that are not known (`MapNode.results_eq`), and the summary of a
run is what the counters and the versions say (`StageGraph.run_ok_summary`).
-/

namespace TemplateCodegen.Incremental

variable {β : Type} [Payload β]

/-! ## Which elements a function is applied to -/

/-- Where equality is told by its test, so is the equality of values of every kind. -/
theorem Kind.lawfulBEq
    (hequal : ∀ (b : β) (one other : Payload.Carrier b),
      Payload.beq b one other = true ↔ one = other) (kind : Kind β) : LawfulBEq kind.Val where
  eq_of_beq {one other} h := by
    have hfaithful : (Admission.all : Admission β).IsFaithful :=
      fun b one other _ _ hbeq => (hequal b one other).mp hbeq
    exact hfaithful.eq_of_beq (kind.admits_all one) (kind.admits_all other) h
  rfl {value} := Kind.beq_self (fun b value => (hequal b value value).mpr rfl) kind value

/-- The result of one element and whether it was computed: it is computed unless the element is one
of the known ones. -/
def StageFn.resultBeyond {α γ : Type} [BEq α] (fn : StageFn α γ) (known : List α) (element : α) :
    Run (List γ × Bool) := do
  Run.poll
  if known.contains element then pure (fn.value element, false)
  else do
    let result ← fn.compute element
    pure (result, true)

namespace MapNode

variable {domain codomain : Kind β} {node : MapNode domain codomain}

/-- The elements of the last evaluation. -/
def known (node : MapNode domain codomain) : List domain.Val := node.memo.map Prod.fst

/-- Nothing is found for an element that is none of the recorded ones. -/
theorem cached?_eq_none_iff [LawfulBEq domain.Val] {index : Nat} {element : domain.Val} :
    node.cached? index element = none ↔ node.known.contains element = false := by
  rw [List.contains_eq_mem, decide_eq_false_iff_not, known, List.mem_map]
  constructor
  · rintro hnone ⟨entry, hentry, rfl⟩
    unfold cached? at hnone
    split at hnone
    · cases hnone
    · rw [Option.map_eq_none_iff, List.find?_eq_none] at hnone
      exact hnone entry hentry (beq_self_eq_true entry.1)
  · intro hknown
    cases hcached : node.cached? index element with
    | none => rfl
    | some result =>
      obtain ⟨entry, hentry, hequal, _⟩ := cached?_eq_some hcached
      exact absurd ⟨entry, hentry, eq_of_beq hequal⟩ hknown

/-- What is found for a known element is the value of the function. -/
theorem cached?_of_known [LawfulBEq domain.Val]
    (hmemo : ∀ entry ∈ node.memo, entry.2 = node.fn.value entry.1) {index : Nat}
    {element : domain.Val} (h : node.known.contains element = true) :
    node.cached? index element = some (node.fn.value element) := by
  cases hcached : node.cached? index element with
  | none =>
    rw [cached?_eq_none_iff.mp hcached] at h
    cases h
  | some result =>
    obtain ⟨entry, hentry, hequal, hresult⟩ := cached?_eq_some hcached
    rw [← hresult, hmemo entry hentry, eq_of_beq hequal]

/-- The evaluation of some elements applies the function to those that are not known, each time they
stand there, and to no others. -/
theorem results_eq [LawfulBEq domain.Val]
    (hmemo : ∀ entry ∈ node.memo, entry.2 = node.fn.value entry.1) (index : Nat)
    (elements : List domain.Val) :
    node.results index elements = elements.mapM (node.fn.resultBeyond node.known) := by
  induction elements generalizing index with
  | nil => rfl
  | cons element rest ih =>
    have hfirst : node.resultOf index element = node.fn.resultBeyond node.known element := by
      unfold resultOf StageFn.resultBeyond
      cases hknown : node.known.contains element with
      | true => rw [cached?_of_known hmemo hknown, if_pos rfl]
      | false => rw [cached?_eq_none_iff.mpr hknown, if_neg Bool.false_ne_true]
    rw [MapNode.results, List.mapM_cons, hfirst, ih]

/-- As many results are computed as there are elements that are not known. -/
theorem countP_resultsFrom [LawfulBEq domain.Val] (index : Nat) (elements : List domain.Val) :
    (node.resultsFrom index elements).countP Prod.snd =
      elements.countP fun element => !node.known.contains element := by
  induction elements generalizing index with
  | nil => rfl
  | cons element rest ih =>
    have hfirst : (node.resultFor index element).2 = !node.known.contains element := by
      unfold resultFor
      cases hcached : node.cached? index element with
      | none => rw [cached?_eq_none_iff.mp hcached, Bool.not_false]
      | some result =>
        have hknown : node.known.contains element = true := by
          rw [← Bool.not_eq_false, ← cached?_eq_none_iff, hcached]
          simp
        rw [hknown, Bool.not_true]
    rw [resultsFrom, List.countP_cons, List.countP_cons, ih, hfirst]

end MapNode

variable [DecidableEq β]

/-! ## Due stages -/

/-- An input of the stage has another version in a graph than it had where the stage was evaluated
last; a stage that has never been evaluated is stale, too. -/
def Stage.IsStale (stage : Stage β) (last : Option (StageGraph β)) (graph : StageGraph β) : Prop :=
  ∀ found, last = some found → ∃ input ∈ stage.inputs, graph.version? input ≠ found.version? input

/-- The stage under a number is one that is evaluated at all, an output depends on it, and it is
stale. -/
structure StageGraph.IsDue (graph : StageGraph β) (history : List (Session β)) (id : Nat) :
    Prop where
  /-- An output depends on the stage. -/
  wanted : Wanted graph.stages id
  /-- The stage is evaluated at all, and it is stale. -/
  stale : ∃ stage, graph.stages[id]? = some stage ∧ stage.isComputing = true ∧
    stage.IsStale (Session.lastEvaluated? id history) graph

/-- An application of a function has seen the version of its input unless it is stale. -/
theorem MapNode.Recalls.seen_iff {domain codomain : Kind β} {node : MapNode domain codomain}
    {last : Option (StageGraph β)} (h : node.Recalls last) {graph : StageGraph β}
    {source : Slot domain.Val} (hsource : slot? domain graph.nodes node.source = some source) :
    node.seen = some source.version ↔
      ¬(Stage.map domain codomain node.source node.fn).IsStale last graph := by
  cases last with
  | none => simp [Stage.IsStale, show node.seen = none from h.1]
  | some found =>
    obtain ⟨old, hold, hseen, _⟩ := h
    simp [Stage.IsStale, Stage.inputs, hseen, StageGraph.version?_of_slot? hsource,
      StageGraph.version?_of_slot? hold, eq_comm]

/-- A pairing has seen the versions of its inputs unless it is stale. -/
theorem CombineNode.Recalls.seen_iff {left right : Kind β} {node : CombineNode left right}
    {last : Option (StageGraph β)} (h : node.Recalls last) {graph : StageGraph β}
    {lefts : Slot left.Val} {rights : Slot right.Val}
    (hlefts : slot? left graph.nodes node.leftSource = some lefts)
    (hrights : slot? right graph.nodes node.rightSource = some rights) :
    node.seen = some (lefts.version, rights.version) ↔
      ¬(Stage.combine left right node.leftSource node.rightSource).IsStale last graph := by
  cases last with
  | none => simp [Stage.IsStale, show node.seen = none from h]
  | some found =>
    obtain ⟨oldLefts, oldRights, hold, hold', hseen⟩ := h
    simp [Stage.IsStale, Stage.inputs, hseen, StageGraph.version?_of_slot? hlefts,
      StageGraph.version?_of_slot? hrights, StageGraph.version?_of_slot? hold,
      StageGraph.version?_of_slot? hold', eq_comm]

/-- A gathering has seen the version of its input unless it is stale. -/
theorem CollectNode.Recalls.seen_iff {kind : Kind β} {node : CollectNode kind}
    {last : Option (StageGraph β)} (h : node.Recalls last) {graph : StageGraph β}
    {source : Slot kind.Val} (hsource : slot? kind graph.nodes node.source = some source) :
    node.seen = some source.version ↔ ¬(Stage.collect kind node.source).IsStale last graph := by
  cases last with
  | none => simp [Stage.IsStale, show node.seen = none from h]
  | some found =>
    obtain ⟨old, hold, hseen⟩ := h
    simp [Stage.IsStale, Stage.inputs, hseen, StageGraph.version?_of_slot? hsource,
      StageGraph.version?_of_slot? hold, eq_comm]

/-- Refreshing a linked node evaluates it once when it is stale, and leaves it when it is not. -/
theorem Node.Recalls.refresh_cases {node : Node β} {last : Option (StageGraph β)}
    (h : node.Recalls last) (hcomputing : node.stage.isComputing = true) {front : List (Node β)}
    (hlinked : node.stage.IsLinked (front.map Node.stage)) {graph : StageGraph β}
    (hfront : front <+: graph.nodes) :
    (node.stage.IsStale last graph ∧
        (node.refresh front).1.stats.evaluations = node.stats.evaluations + 1) ∨
      (¬node.stage.IsStale last graph ∧ (node.refresh front).1 = node) := by
  cases node with
  | source kind inner => cases hcomputing
  | output kind inner => cases hcomputing
  | map domain codomain inner =>
    obtain ⟨found, hfound⟩ := exists_slot?_of_kind? hlinked
    rcases inner.refresh_cases front with ⟨hnone, _⟩ | ⟨source, hsource, hcase⟩
    · rw [hfound] at hnone
      cases hnone
    · have hiff := MapNode.Recalls.seen_iff h (StageGraph.slot?_of_prefix hfront hsource)
      rcases hcase with ⟨hseen, heq⟩ | ⟨hnew, heq⟩
      · exact .inr ⟨hiff.mp hseen, by simp only [Node.refresh, heq]⟩
      · refine .inl ⟨not_not.mp (mt hiff.mpr hnew), ?_⟩
        simp only [Node.refresh, heq]
        exact Stats.evaluations_countEvaluation ..
  | combine left right inner =>
    obtain ⟨lefts', hlefts'⟩ := exists_slot?_of_kind? hlinked.1
    obtain ⟨rights', hrights'⟩ := exists_slot?_of_kind? hlinked.2
    rcases inner.refresh_cases front with ⟨hnone, _⟩ | ⟨lefts, rights, hlefts, hrights, hcase⟩
    · exact absurd hrights' (hnone lefts' rights' hlefts')
    · have hiff := CombineNode.Recalls.seen_iff h (StageGraph.slot?_of_prefix hfront hlefts)
        (StageGraph.slot?_of_prefix hfront hrights)
      rcases hcase with ⟨hseen, heq⟩ | ⟨hnew, heq⟩
      · exact .inr ⟨hiff.mp hseen, by simp only [Node.refresh, heq]⟩
      · refine .inl ⟨not_not.mp (mt hiff.mpr hnew), ?_⟩
        simp only [Node.refresh, heq]
        exact Stats.evaluations_countEvaluation ..
  | collect kind inner =>
    obtain ⟨found, hfound⟩ := exists_slot?_of_kind? hlinked
    rcases inner.refresh_cases front with ⟨hnone, _⟩ | ⟨source, hsource, hcase⟩
    · rw [hfound] at hnone
      cases hnone
    · have hiff := CollectNode.Recalls.seen_iff h (StageGraph.slot?_of_prefix hfront hsource)
      rcases hcase with ⟨hseen, heq⟩ | ⟨hnew, heq⟩
      · exact .inr ⟨hiff.mp hseen, by simp only [Node.refresh, heq]⟩
      · refine .inl ⟨not_not.mp (mt hiff.mpr hnew), ?_⟩
        simp only [Node.refresh, heq]
        exact Stats.evaluations_countEvaluation ..

/-- A node that is never evaluated is left as it is. -/
theorem Node.refresh_of_isComputing {node : Node β} (h : node.stage.isComputing = false)
    (front : List (Node β)) : (node.refresh front).1 = node := by
  cases node with
  | source kind inner => rfl
  | output kind inner => rfl
  | map domain codomain inner => cases h
  | combine left right inner => cases h
  | collect kind inner => cases h

omit [DecidableEq β] in
/-- Only what an output depends on is asked for. -/
theorem wanted_of_demandedAfter {nodes : List (Node β)} {rounds id : Nat}
    (h : (demandedAfter nodes rounds)[id]? = some true) : Wanted (nodes.map Node.stage) id := by
  induction rounds generalizing id with
  | zero =>
    rw [demandedAfter, List.getElem?_map] at h
    obtain ⟨node, hnode, hout⟩ := Option.map_eq_some_iff.mp h
    have hplace : (nodes.map Node.stage)[id]? = some node.stage := by
      rw [List.getElem?_map, hnode, Option.map_some]
    exact .output hplace (node.isOutput_stage.trans hout)
  | succ rounds ih =>
    rw [demandedAfter, List.getElem?_mapIdx] at h
    obtain ⟨mark, hmark, hor⟩ := Option.map_eq_some_iff.mp h
    rcases Bool.or_eq_true_iff.mp hor with rfl | hcontains
    · exact ih hmark
    · obtain ⟨⟨node, asked⟩, hentry, hinput⟩ :=
        List.mem_flatMap.mp (List.contains_iff_mem.mp hcontains)
      obtain ⟨reader, hreader⟩ := List.mem_iff_getElem?.mp hentry
      obtain ⟨hnode, hasked⟩ := List.getElem?_zip_eq_some.mp hreader
      have hplace : (nodes.map Node.stage)[reader]? = some node.stage := by
        rw [List.getElem?_map, hnode, Option.map_some]
      cases asked with
      | false => cases hinput
      | true => exact (ih hasked).input hplace (node.inputs_stage ▸ hinput)

/-! ## What a run counts -/

omit [DecidableEq β] in
/-- What the counters and the versions of nodes say about a run that has left others in their
places. -/
def Summary.between (before after : List (Node β)) : Summary where
  evaluated := (before.zip after).countP fun entry =>
    entry.1.stats.evaluations != entry.2.stats.evaluations
  changed := (before.zip after).countP fun entry => entry.1.version? != entry.2.version?

omit [DecidableEq β] in
/-- Between nodes and themselves nothing has been done. -/
theorem Summary.between_self (nodes : List (Node β)) : between nodes nodes = {} := by
  have hsame : ∀ entry ∈ nodes.zip nodes, entry.1 = entry.2 := by
    intro entry hentry
    obtain ⟨index, hindex⟩ := List.mem_iff_getElem?.mp hentry
    obtain ⟨hfirst, hsecond⟩ := List.getElem?_zip_eq_some.mp hindex
    exact Option.some.inj (hfirst.symm.trans hsecond)
  have hevaluated : (between nodes nodes).evaluated = 0 :=
    List.countP_eq_zero.mpr fun entry hentry => by simp [hsame entry hentry]
  have hchanged : (between nodes nodes).changed = 0 :=
    List.countP_eq_zero.mpr fun entry hentry => by simp [hsame entry hentry]
  rw [show between nodes nodes = ⟨_, _⟩ from rfl]
  exact congrArg₂ Summary.mk hevaluated hchanged

omit [DecidableEq β] in
/-- A slot reports a change exactly when its version advances. -/
theorem Slot.changed_update {α : Type} [BEq α] (slot : Slot α) (values : List α) :
    (slot.update values).2 = (some slot.version != some (slot.update values).1.version) := by
  rw [slot.update_version values]
  cases (slot.update values).2 <;> simp

/-- Refreshing a node reports a change exactly when its version advances. -/
theorem Node.changed_refresh (node : Node β) (front : List (Node β)) :
    (node.refresh front).2 = (node.version? != (node.refresh front).1.version?) := by
  rcases node.refresh_or_evaluates front with h | h
  · simp [h]
  · obtain ⟨kind, slot, values, hbefore, hafter, hchanged⟩ := h.slot
    rw [hchanged, version?, version?, hbefore, hafter]
    exact slot.changed_update values

/-- A complete run adds to its summary what the counters and the versions say. -/
theorem advance_summary (front : List (Node β)) (summary : Summary)
    (rest : List (Node β × Bool)) (signal : Signal) {done : Summary}
    (hok : (advance front summary rest signal).outcome = .ok done) :
    ∃ behind, (advance front summary rest signal).nodes = front ++ behind ∧
      done.evaluated =
        summary.evaluated + (Summary.between (rest.map Prod.fst) behind).evaluated ∧
      done.changed = summary.changed + (Summary.between (rest.map Prod.fst) behind).changed := by
  induction rest generalizing front summary signal with
  | nil =>
    obtain rfl : summary = done := Except.ok.inj hok
    exact ⟨[], (List.append_nil front).symm, rfl, rfl⟩
  | cons entry rest ih =>
    obtain ⟨node, mark⟩ := entry
    cases mark with
    | false =>
      obtain ⟨behind, hnodes, hevaluated, hchanged⟩ := ih (front ++ [node]) summary signal hok
      refine ⟨node :: behind, ?_, ?_, ?_⟩
      · rw [advance, hnodes, List.append_assoc]
        rfl
      · rw [hevaluated]
        simp [Summary.between]
      · rw [hchanged]
        simp [Summary.between]
    | true =>
      unfold advance at hok ⊢
      split at hok
      · rename_i next changed signal' hnext
        obtain ⟨_, between, _, hevaluate⟩ := Run.bind_eq_ok hnext
        have hrefresh := Node.evaluate_ok hevaluate
        have hreport : changed = (node.version? != next.version?) := by
          have h := node.changed_refresh front
          rwa [← hrefresh] at h
        obtain ⟨behind, hnodes, hevaluated, hchanged⟩ :=
          ih (front ++ [next]) (summary.count node next changed) signal' hok
        refine ⟨next :: behind, ?_, ?_, ?_⟩
        · rw [hnodes, List.append_assoc]
          rfl
        · rw [hevaluated]
          simp only [Summary.between, Summary.count, List.map_cons, List.zip_cons_cons,
            List.countP_cons, bne_iff_ne, ite_not]
          omega
        · rw [hchanged]
          simp only [Summary.between, Summary.count, List.map_cons, List.zip_cons_cons,
            List.countP_cons, hreport]
          omega
      · cases hok

/-- The summary of a complete run is what the counters and the versions say. -/
theorem StageGraph.run_ok_summary {graph : StageGraph β} {signal : Signal} {summary : Summary}
    (hok : (graph.run signal).2.2 = .ok summary) :
    summary = Summary.between graph.nodes (graph.run signal).1.nodes := by
  have houtcome : (advance [] {} graph.agenda signal).outcome = .ok summary := hok
  obtain ⟨behind, hnodes, hevaluated, hchanged⟩ :=
    advance_summary [] {} graph.agenda signal houtcome
  have hafter : (graph.run signal).1.nodes = behind := hnodes
  rw [hafter, ← graph.map_fst_agenda]
  exact congrArg₂ Summary.mk (hevaluated.trans (Nat.zero_add _)) (hchanged.trans (Nat.zero_add _))

end TemplateCodegen.Incremental
