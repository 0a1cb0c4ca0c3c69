import TemplateCodegen.Proofs.Incremental.Consistency

/-!
# Sessions with a graph

What a host can do with a graph: it adds stages through handles that the graph has issued, supplies
values, runs the graph under any signal and takes values at its outputs, in any order. A session is
a graph with the handles issued so far and the values supplied last. The invariant `Sound` holds of
every session that can be reached. Main statement: behind a run that is not cancelled every stage
that an output depends on holds its values from scratch, and a stage of one value holds exactly one
(`Session.Reachable.holds_scratch`).
-/

namespace TemplateCodegen.Incremental

variable {β : Type} [Payload β]

/-- Every value is admitted. -/
def Admission.all : Admission β := fun _ _ => True

/-- A value of any kind is made of admitted ones when every value is. -/
theorem Kind.admits_all (kind : Kind β) (value : kind.Val) : kind.Admits Admission.all value := by
  induction kind with
  | base b => trivial
  | pair left right ihLeft ihRight => exact ⟨ihLeft value.1, ihRight value.2⟩
  | list item ih => exact fun inner _ => ih inner

/-- A graph with what its host has been given by it and has given to it. -/
structure Session (β : Type) [Payload β] where
  /-- The graph. -/
  graph : StageGraph β := .empty
  /-- The values supplied last under every number. -/
  supplied : Supply β := fun _ _ => []
  /-- The sources issued so far. -/
  sources : List ((kind : Kind β) × Source kind) := []
  /-- The sources of one value issued so far. -/
  singleSources : List ((kind : Kind β) × SingleSource kind) := []
  /-- The stages of any number of values issued so far. -/
  values : List ((kind : Kind β) × Values kind) := []
  /-- The stages of one value issued so far. -/
  singles : List ((kind : Kind β) × Single kind) := []
  /-- The outputs issued so far. -/
  outputs : List ((kind : Kind β) × Output kind) := []

/-- What is found in a list is found there still when something is added behind. -/
theorem getElem?_concat {α : Type} {items : List α} {id : Nat} {found : α} (item : α)
    (h : items[id]? = some found) : (items ++ [item])[id]? = some found := by
  obtain ⟨hid, _⟩ := List.getElem?_eq_some_iff.mp h
  rwa [List.getElem?_append_left hid]

namespace Session

variable [DecidableEq β]

/-- The session behind the addition of a source without values. -/
def addSource (session : Session β) (kind : Kind β) : Session β :=
  let (source, graph) := (StageGraph.source kind).run session.graph
  { session with
    graph
    supplied := session.supplied.set source.id kind []
    sources := ⟨kind, source⟩ :: session.sources }

/-- The session behind the addition of a source of one value. -/
def addSingleSource (session : Session β) (kind : Kind β) (initial : kind.Val) : Session β :=
  let (source, graph) := (StageGraph.singleSource kind initial).run session.graph
  { session with
    graph
    supplied := session.supplied.set source.id kind [initial]
    singleSources := ⟨kind, source⟩ :: session.singleSources }

omit [DecidableEq β] in
/-- The session behind the addition of a stage of any number of values. -/
def addValues {kind : Kind β} (session : Session β)
    (adding : StateM (StageGraph β) (Values kind)) : Session β :=
  let (values, graph) := adding.run session.graph
  { session with graph, values := ⟨kind, values⟩ :: session.values }

omit [DecidableEq β] in
/-- The session behind the addition of a stage of one value. -/
def addSingle {kind : Kind β} (session : Session β)
    (adding : StateM (StageGraph β) (Single kind)) : Session β :=
  let (single, graph) := adding.run session.graph
  { session with graph, singles := ⟨kind, single⟩ :: session.singles }

omit [DecidableEq β] in
/-- The session behind the addition of an output. -/
def addOutput {kind : Kind β} (session : Session β)
    (adding : StateM (StageGraph β) (Output kind)) : Session β :=
  let (output, graph) := adding.run session.graph
  { session with graph, outputs := ⟨kind, output⟩ :: session.outputs }

/-- One operation of the host. Handles are used on the graph that has issued them; looking at a
pending value changes nothing and is no step. -/
inductive Step (session : Session β) : Session β → Prop where
  | source (kind : Kind β) : Step session (session.addSource kind)
  | singleSource (kind : Kind β) (initial : kind.Val) :
    Step session (session.addSingleSource kind initial)
  | sourceValues {kind : Kind β} {source : Source kind} (h : ⟨kind, source⟩ ∈ session.sources) :
    Step session { session with values := ⟨kind, source.values⟩ :: session.values }
  | sourceValue {kind : Kind β} {source : SingleSource kind}
    (h : ⟨kind, source⟩ ∈ session.singleSources) :
    Step session { session with singles := ⟨kind, source.value⟩ :: session.singles }
  | asValues {kind : Kind β} {single : Single kind} (h : ⟨kind, single⟩ ∈ session.singles) :
    Step session { session with values := ⟨kind, single.asValues⟩ :: session.values }
  | map {domain : Kind β} (codomain : Kind β) {input : Values domain}
    (h : ⟨domain, input⟩ ∈ session.values) (f : domain.Val → codomain.Val) :
    Step session (session.addValues (StageGraph.map codomain input f))
  | tryMap {domain : Kind β} (codomain : Kind β) {input : Values domain}
    (h : ⟨domain, input⟩ ∈ session.values) (fn : StageFn domain.Val codomain.Val) :
    Step session (session.addValues (StageGraph.tryMap codomain input fn))
  | flatMap {domain : Kind β} (codomain : Kind β) {input : Values domain}
    (h : ⟨domain, input⟩ ∈ session.values) (f : domain.Val → List codomain.Val) :
    Step session (session.addValues (StageGraph.flatMap codomain input f))
  | filter {kind : Kind β} {input : Values kind} (h : ⟨kind, input⟩ ∈ session.values)
    (test : kind.Val → Bool) :
    Step session (session.addValues (StageGraph.filter input test))
  | mapSingle {domain : Kind β} (codomain : Kind β) {input : Single domain}
    (h : ⟨domain, input⟩ ∈ session.singles) (f : domain.Val → codomain.Val) :
    Step session (session.addSingle (StageGraph.mapSingle codomain input f))
  | combine {left right : Kind β} {input : Values left} {partner : Single right}
    (hinput : ⟨left, input⟩ ∈ session.values) (hpartner : ⟨right, partner⟩ ∈ session.singles) :
    Step session (session.addValues (StageGraph.combine input partner))
  | combineSingle {left right : Kind β} {input : Single left} {partner : Single right}
    (hinput : ⟨left, input⟩ ∈ session.singles) (hpartner : ⟨right, partner⟩ ∈ session.singles) :
    Step session (session.addSingle (StageGraph.combineSingle input partner))
  | collect {kind : Kind β} {input : Values kind} (h : ⟨kind, input⟩ ∈ session.values) :
    Step session (session.addSingle (StageGraph.collect input))
  | concat {kind : Kind β} {left right : Single (.list kind)}
    (hleft : ⟨.list kind, left⟩ ∈ session.singles)
    (hright : ⟨.list kind, right⟩ ∈ session.singles) :
    Step session (session.addSingle (StageGraph.concat left right))
  | output {kind : Kind β} {input : Single kind} (h : ⟨kind, input⟩ ∈ session.singles) :
    Step session (session.addOutput (StageGraph.output input))
  | setSource {kind : Kind β} {source : Source kind} (h : ⟨kind, source⟩ ∈ session.sources)
    (values : List kind.Val) :
    Step session { session with
      graph := (session.graph.setSource source values).1
      supplied := session.supplied.set source.id kind values }
  | setSingle {kind : Kind β} {source : SingleSource kind}
    (h : ⟨kind, source⟩ ∈ session.singleSources) (value : kind.Val) :
    Step session { session with
      graph := (session.graph.setSingle source value).1
      supplied := session.supplied.set source.id kind [value] }
  | setParallel (isParallel : Bool) :
    Step session { session with graph := session.graph.setParallel isParallel }
  | run (signal : Signal) :
    Step session { session with graph := (session.graph.run signal).1 }
  | take {kind : Kind β} {output : Output kind} (h : ⟨kind, output⟩ ∈ session.outputs) :
    Step session { session with graph := (session.graph.take output).1 }
  | commit {kind : Kind β} {output : Output kind} (h : ⟨kind, output⟩ ∈ session.outputs)
    (pending : Pending kind) :
    Step session { session with graph := session.graph.commit output pending }

/-- The sessions that a host can reach from the graph without nodes. -/
inductive Reachable : Session β → Prop where
  | empty : Reachable {}
  | step {session next : Session β} (h : Reachable session) (hstep : session.Step next) :
    Reachable next

/-! ## The invariant -/

omit [DecidableEq β] in
/-- Every source of one value that has been issued is supplied with exactly one. -/
def Fills (session : Session β) (supply : Supply β) : Prop :=
  ∀ issued ∈ session.singleSources, ∃ value, supply issued.2.id issued.1 = [value]

/-- The invariant of a session. -/
structure Sound (session : Session β) : Prop where
  /-- The nodes of the graph may rely on what they remember. -/
  settled : Settled Admission.all session.graph.nodes
  /-- The sources hold what has been supplied. -/
  supplied : IsSupplied session.supplied session.graph.nodes
  /-- One value has been supplied to every source of one value. -/
  fills : session.Fills session.supplied
  /-- Handles of sources name sources of their kind. -/
  sources : ∀ issued ∈ session.sources,
    session.graph.stages[issued.2.id]? = some (.source issued.1)
  /-- Handles of sources of one value name sources of their kind. -/
  singleSources : ∀ issued ∈ session.singleSources,
    session.graph.stages[issued.2.id]? = some (.source issued.1)
  /-- No source is of both sorts. -/
  apart : ∀ one ∈ session.sources, ∀ other ∈ session.singleSources, one.2.id ≠ other.2.id
  /-- Handles of values name stages that give values of their kind. -/
  values : ∀ issued ∈ session.values,
    (session.graph.stages[issued.2.id]?).bind Stage.kind? = some issued.1
  /-- Handles of one value name stages that give exactly one, whatever the sources are supplied
  with. -/
  singles : ∀ supply, session.Fills supply → ∀ issued ∈ session.singles,
    ∃ value, Denotes supply session.graph.stages issued.2.id issued.1 [value]

namespace Sound

variable {session : Session β}

/-- The session without nodes. -/
theorem empty : Sound ({} : Session β) where
  settled := Settled.nil
  supplied _ _ _ h := by simp [StageGraph.empty] at h
  fills _ h := by simp at h
  sources _ h := by simp at h
  singleSources _ h := by simp at h
  apart _ h := by simp at h
  values _ h := by simp at h
  singles _ _ _ h := by simp at h

/-- A handle of one value names a stage that gives values of its kind. -/
theorem single_kind (h : session.Sound) {kind : Kind β} {single : Single kind}
    (hsingle : ⟨kind, single⟩ ∈ session.singles) :
    (session.graph.stages[single.id]?).bind Stage.kind? = some kind := by
  obtain ⟨value, hvalue⟩ := h.singles session.supplied h.fills _ hsingle
  exact hvalue.kind?

/-- A blank node that finds its inputs may be added, with what is supplied under its number. -/
theorem withNode (h : session.Sound) {node : Node β} {supply : Supply β} (hblank : node.IsBlank)
    (hlinked : node.stage.IsLinked session.graph.stages)
    (hsupplied : IsSupplied supply (session.graph.withNode node).nodes)
    (hfills : session.Fills supply) :
    Sound { session with graph := session.graph.withNode node, supplied := supply } where
  settled := by
    refine h.settled.withNode hblank (fun held _ value _ => held.kind.admits_all value) ?_ hlinked
    cases node.stage with
    | map domain codomain input fn => exact fun _ _ value _ => codomain.admits_all value
    | source kind => trivial
    | combine left right leftInput rightInput => trivial
    | collect kind input => trivial
    | output kind input => trivial
  supplied := hsupplied
  fills := hfills
  sources issued hissued := by
    rw [StageGraph.stages_withNode]
    exact getElem?_concat node.stage (h.sources issued hissued)
  singleSources issued hissued := by
    rw [StageGraph.stages_withNode]
    exact getElem?_concat node.stage (h.singleSources issued hissued)
  apart := h.apart
  values issued hissued := by
    obtain ⟨stage, hstage, hkind⟩ := Option.bind_eq_some_iff.mp (h.values issued hissued)
    rw [StageGraph.stages_withNode, getElem?_concat node.stage hstage]
    exact hkind
  singles supply' hsupply issued hissued := by
    obtain ⟨value, hvalue⟩ := h.singles supply' hsupply issued hissued
    refine ⟨value, ?_⟩
    rw [StageGraph.stages_withNode]
    exact hvalue.concat node.stage

/-- A blank node that is no source and finds its inputs may be added. -/
theorem withStage (h : session.Sound) {node : Node β} (hblank : node.IsBlank)
    (hsource : ∀ kind inner, node ≠ .source kind inner)
    (hlinked : node.stage.IsLinked session.graph.stages) :
    Sound { session with graph := session.graph.withNode node } :=
  h.withNode hblank hlinked
    (h.supplied.withNode fun kind inner hinner => absurd hinner (hsource kind inner)) h.fills

/-- A handle of a stage that gives values of its kind may be issued. -/
theorem issueValues (h : session.Sound) {kind : Kind β} {values : Values kind}
    (hkind : (session.graph.stages[values.id]?).bind Stage.kind? = some kind) :
    Sound { session with values := ⟨kind, values⟩ :: session.values } where
  settled := h.settled
  supplied := h.supplied
  fills := h.fills
  sources := h.sources
  singleSources := h.singleSources
  apart := h.apart
  values issued hissued := by
    rcases List.mem_cons.mp hissued with rfl | hmem
    · exact hkind
    · exact h.values issued hmem
  singles := h.singles

/-- A handle of a stage that gives exactly one value may be issued. -/
theorem issueSingle (h : session.Sound) {kind : Kind β} {single : Single kind}
    (hsingle : ∀ supply, session.Fills supply →
      ∃ value, Denotes supply session.graph.stages single.id kind [value]) :
    Sound { session with singles := ⟨kind, single⟩ :: session.singles } where
  settled := h.settled
  supplied := h.supplied
  fills := h.fills
  sources := h.sources
  singleSources := h.singleSources
  apart := h.apart
  values := h.values
  singles supply hsupply issued hissued := by
    rcases List.mem_cons.mp hissued with rfl | hmem
    · exact hsingle supply hsupply
    · exact h.singles supply hsupply issued hmem

/-- An application of a function to every element may be added. -/
theorem addMap (h : session.Sound) {domain codomain : Kind β} {input : Values domain}
    (hinput : ⟨domain, input⟩ ∈ session.values) (fn : StageFn domain.Val codomain.Val) :
    (session.addValues (StageGraph.tryMap codomain input fn)).Sound := by
  have hgraph : Sound { session with
      graph := session.graph.withNode (.map domain codomain { source := input.id, fn }) } :=
    h.withStage ⟨rfl, rfl, rfl⟩ (fun _ _ hnode => by cases hnode) (h.values _ hinput)
  refine hgraph.issueValues ?_
  rw [StageGraph.getElem?_withNode]
  rfl

/-- The pairs of values with the one value of a stage may be added. -/
theorem addCombine (h : session.Sound) {left right : Kind β} {input : Values left}
    {partner : Single right} (hinput : ⟨left, input⟩ ∈ session.values)
    (hpartner : ⟨right, partner⟩ ∈ session.singles) :
    (session.addValues (StageGraph.combine input partner)).Sound := by
  have hgraph : Sound { session with
      graph := session.graph.withNode
        (.combine left right { leftSource := input.id, rightSource := partner.id }) } :=
    h.withStage ⟨rfl, rfl⟩ (fun _ _ hnode => by cases hnode)
      ⟨h.values _ hinput, h.single_kind hpartner⟩
  refine hgraph.issueValues ?_
  rw [StageGraph.getElem?_withNode]
  rfl

/-- A function may be applied to the one value of a stage. -/
theorem addMapSingle (h : session.Sound) {domain : Kind β} (codomain : Kind β)
    {input : Single domain} (hinput : ⟨domain, input⟩ ∈ session.singles)
    (f : domain.Val → codomain.Val) :
    (session.addSingle (StageGraph.mapSingle codomain input f)).Sound := by
  have hgraph : Sound { session with
      graph := session.graph.withNode
        (.map domain codomain { source := input.id, fn := .ofPure fun element => [f element] }) } :=
    h.withStage ⟨rfl, rfl, rfl⟩ (fun _ _ hnode => by cases hnode) (h.single_kind hinput)
  refine hgraph.issueSingle fun supply hsupply => ?_
  obtain ⟨value, hvalue⟩ := h.singles supply hsupply _ hinput
  exact ⟨f value, (hvalue.map codomain (.ofPure fun element => [f element])).withNode⟩

/-- The one values of two stages may be paired. -/
theorem addCombineSingle (h : session.Sound) {left right : Kind β} {input : Single left}
    {partner : Single right} (hinput : ⟨left, input⟩ ∈ session.singles)
    (hpartner : ⟨right, partner⟩ ∈ session.singles) :
    (session.addSingle (StageGraph.combineSingle input partner)).Sound := by
  have hgraph : Sound { session with
      graph := session.graph.withNode
        (.combine left right { leftSource := input.id, rightSource := partner.id }) } :=
    h.withStage ⟨rfl, rfl⟩ (fun _ _ hnode => by cases hnode)
      ⟨h.single_kind hinput, h.single_kind hpartner⟩
  refine hgraph.issueSingle fun supply hsupply => ?_
  obtain ⟨one, hone⟩ := h.singles supply hsupply _ hinput
  obtain ⟨other, hother⟩ := h.singles supply hsupply _ hpartner
  exact ⟨(one, other), (hone.combine hother).withNode⟩

/-- All values of a stage may be gathered. -/
theorem addCollect (h : session.Sound) {kind : Kind β} {input : Values kind}
    (hinput : ⟨kind, input⟩ ∈ session.values) :
    (session.addSingle (StageGraph.collect input)).Sound := by
  have hgraph : Sound { session with
      graph := session.graph.withNode (.collect kind { source := input.id }) } :=
    h.withStage ⟨rfl, rfl⟩ (fun _ _ hnode => by cases hnode) (h.values _ hinput)
  refine hgraph.issueSingle fun supply hsupply => ?_
  obtain ⟨values, hvalues⟩ := h.settled.linked.exists_denotes supply (h.values _ hinput)
  exact ⟨values, hvalues.collect.withNode⟩

/-- Two gathered lists may be put one behind the other. -/
theorem addConcat (h : session.Sound) {kind : Kind β} {left right : Single (.list kind)}
    (hleft : ⟨.list kind, left⟩ ∈ session.singles)
    (hright : ⟨.list kind, right⟩ ∈ session.singles) :
    (session.addSingle (StageGraph.concat left right)).Sound := by
  have hpair := h.addCombineSingle hleft hright
  have hboth := hpair.addMapSingle (.list kind) List.mem_cons_self
    fun (lists : List kind.Val × List kind.Val) => lists.1.append lists.2
  -- The handle of the pair between the two stages is not issued.
  refine { hboth with singles := fun supply hsupply issued hissued => ?_ }
  refine hboth.singles supply hsupply issued ?_
  rcases List.mem_cons.mp hissued with rfl | hmem
  · exact List.mem_cons_self
  · exact List.mem_cons_of_mem _ (List.mem_cons_of_mem _ hmem)

/-- The value of a stage may be handed out. -/
theorem addOutput (h : session.Sound) {kind : Kind β} {input : Single kind}
    (hinput : ⟨kind, input⟩ ∈ session.singles) :
    (session.addOutput (StageGraph.output input)).Sound := by
  have hgraph : Sound { session with
      graph := session.graph.withNode (.output kind { source := input.id }) } :=
    h.withStage rfl (fun _ _ hnode => by cases hnode) (h.single_kind hinput)
  exact { hgraph with }

omit [DecidableEq β] in
/-- The number of a source stands in front of the end. -/
theorem id_lt_of_source {graph : StageGraph β} {id : Nat} {kind : Kind β}
    (h : graph.stages[id]? = some (.source kind)) : id < graph.nodes.length := by
  obtain ⟨hid, _⟩ := List.getElem?_eq_some_iff.mp h
  rwa [graph.length_stages] at hid

/-- What is supplied under the next number leaves the sources of one value alone. -/
theorem fills_set_length (h : session.Sound) (kind : Kind β) (values : List kind.Val) :
    session.Fills (session.supplied.set session.graph.nodes.length kind values) := by
  intro issued hissued
  obtain ⟨value, hvalue⟩ := h.fills issued hissued
  have hid := id_lt_of_source (h.singleSources issued hissued)
  refine ⟨value, ?_⟩
  rw [Supply.set_of_ne session.supplied (by omega)]
  exact hvalue

/-- A source node may be added, with what it holds. -/
theorem withSource (h : session.Sound) {kind : Kind β} (node : SourceNode kind) :
    Sound { session with
      graph := session.graph.withNode (.source kind node)
      supplied := session.supplied.set session.graph.nodes.length kind node.slot.values } := by
  refine h.withNode trivial trivial ?_ (h.fills_set_length kind node.slot.values)
  refine (h.supplied.set_length kind node.slot.values).withNode fun found inner hinner => ?_
  cases hinner
  exact (Supply.set_self session.supplied session.graph.nodes.length kind node.slot.values).symm

/-- A source without values may be added. -/
theorem addSource (h : session.Sound) (kind : Kind β) : (session.addSource kind).Sound := by
  have hgraph := h.withSource ({} : SourceNode kind)
  refine { hgraph with
    sources := fun issued hissued => ?_
    apart := fun one hone other hother => ?_ }
  · rcases List.mem_cons.mp hissued with rfl | hmem
    · exact StageGraph.getElem?_withNode session.graph _
    · exact hgraph.sources issued hmem
  · rcases List.mem_cons.mp hone with rfl | hmem
    · have hid := id_lt_of_source (h.singleSources other hother)
      exact Nat.ne_of_gt hid
    · exact h.apart one hmem other hother

/-- A source of one value may be added. -/
theorem addSingleSource (h : session.Sound) (kind : Kind β) (initial : kind.Val) :
    (session.addSingleSource kind initial).Sound := by
  have hvalues : (StageGraph.setNode ({} : SourceNode kind) [initial]).1.slot.values = [initial] :=
    rfl
  have hgraph := h.withSource (StageGraph.setNode ({} : SourceNode kind) [initial]).1
  rw [hvalues] at hgraph
  refine { hgraph with
    fills := fun issued hissued => ?_
    singleSources := fun issued hissued => ?_
    apart := fun one hone other hother => ?_
    singles := fun supply hsupply => ?_ }
  · rcases List.mem_cons.mp hissued with rfl | hmem
    · exact ⟨initial, Supply.set_self session.supplied session.graph.nodes.length kind [initial]⟩
    · exact hgraph.fills issued hmem
  · rcases List.mem_cons.mp hissued with rfl | hmem
    · exact StageGraph.getElem?_withNode session.graph _
    · exact hgraph.singleSources issued hmem
  · rcases List.mem_cons.mp hother with rfl | hmem
    · have hid := id_lt_of_source (h.sources one hone)
      exact Nat.ne_of_lt hid
    · exact h.apart one hone other hmem
  · exact hgraph.singles supply fun issued hissued =>
      hsupply issued (List.mem_cons_of_mem _ hissued)

/-- The graph and what is supplied to it may change together, where the stages stay. -/
theorem withGraph (h : session.Sound) {graph : StageGraph β} {supply : Supply β}
    (hstages : graph.stages = session.graph.stages)
    (hsettled : Settled Admission.all graph.nodes) (hsupplied : IsSupplied supply graph.nodes)
    (hfills : session.Fills supply) :
    Sound { session with graph, supplied := supply } := by
  refine { h with
    settled := hsettled
    supplied := hsupplied
    fills := hfills
    sources := ?_, singleSources := ?_, values := ?_, singles := ?_ }
  · rw [hstages]
    exact h.sources
  · rw [hstages]
    exact h.singleSources
  · rw [hstages]
    exact h.values
  · rw [hstages]
    exact h.singles

/-- Values may be supplied under a number, where every source of one value still has one. -/
theorem setValues (h : session.Sound) (hfaithful : (Admission.all : Admission β).IsFaithful)
    {kind : Kind β} {id : Nat} (values : List kind.Val)
    (hfills : session.Fills (session.supplied.set id kind values)) :
    Sound { session with
      graph := (session.graph.setValues kind id values).1
      supplied := session.supplied.set id kind values } := by
  refine h.withGraph (session.graph.stages_setValues kind id values)
    (h.settled.setValues fun value _ => kind.admits_all value) ?_ hfills
  refine h.supplied.setValues fun inner _ heq => ?_
  exact hfaithful.values_eq_of_beq (fun value _ => kind.admits_all value)
    (fun value _ => kind.admits_all value) heq

/-- Values may be supplied to a source. -/
theorem setSource (h : session.Sound) (hfaithful : (Admission.all : Admission β).IsFaithful)
    {kind : Kind β} {source : Source kind} (hsource : ⟨kind, source⟩ ∈ session.sources)
    (values : List kind.Val) :
    Sound { session with
      graph := (session.graph.setSource source values).1
      supplied := session.supplied.set source.id kind values } := by
  refine h.setValues hfaithful values fun issued hissued => ?_
  rw [Supply.set_of_ne session.supplied (h.apart _ hsource issued hissued)]
  exact h.fills issued hissued

/-- Another value may be supplied to a source of one value. -/
theorem setSingle (h : session.Sound) (hfaithful : (Admission.all : Admission β).IsFaithful)
    {kind : Kind β} (source : SingleSource kind) (value : kind.Val) :
    Sound { session with
      graph := (session.graph.setSingle source value).1
      supplied := session.supplied.set source.id kind [value] } := by
  refine h.setValues hfaithful [value] fun issued hissued => ?_
  by_cases hsame : source.id = issued.2.id ∧ kind = issued.1
  · obtain ⟨found, other⟩ := issued
    obtain ⟨hid, rfl⟩ := hsame
    refine ⟨value, ?_⟩
    rw [← hid]
    exact Supply.set_self session.supplied source.id kind [value]
  · obtain ⟨old, hold⟩ := h.fills issued hissued
    refine ⟨old, ?_⟩
    simpa [Supply.set, hsame] using hold

/-- The value of a source of one value may be used as a stage. -/
theorem issueSourceValue (h : session.Sound) {kind : Kind β} {source : SingleSource kind}
    (hsource : ⟨kind, source⟩ ∈ session.singleSources) :
    Sound { session with singles := ⟨kind, source.value⟩ :: session.singles } := by
  refine h.issueSingle fun supply hsupply => ?_
  obtain ⟨value, hvalue⟩ := hsupply _ hsource
  refine ⟨value, ?_⟩
  rw [← show supply source.id kind = [value] from hvalue]
  exact Denotes.of_source (h.singleSources _ hsource)

/-- Every operation of the host keeps the invariant. -/
theorem step (h : session.Sound) (hfaithful : (Admission.all : Admission β).IsFaithful)
    {next : Session β} (hstep : session.Step next) : next.Sound := by
  cases hstep with
  | source kind => exact h.addSource kind
  | singleSource kind initial => exact h.addSingleSource kind initial
  | sourceValues hsource =>
    refine h.issueValues ?_
    exact Option.bind_eq_some_iff.mpr ⟨_, h.sources _ hsource, rfl⟩
  | sourceValue hsource => exact h.issueSourceValue hsource
  | asValues hsingle => exact h.issueValues (h.single_kind hsingle)
  | map codomain hinput f => exact h.addMap hinput _
  | tryMap codomain hinput fn => exact h.addMap hinput fn
  | flatMap codomain hinput f => exact h.addMap hinput _
  | filter hinput test => exact h.addMap hinput _
  | mapSingle codomain hinput f => exact h.addMapSingle codomain hinput f
  | combine hinput hpartner => exact h.addCombine hinput hpartner
  | combineSingle hinput hpartner => exact h.addCombineSingle hinput hpartner
  | collect hinput => exact h.addCollect hinput
  | concat hleft hright => exact h.addConcat hleft hright
  | output hinput => exact h.addOutput hinput
  | setSource hsource values => exact h.setSource hfaithful hsource values
  | setSingle hsource value => exact h.setSingle hfaithful _ value
  | setParallel isParallel => exact h.withGraph rfl h.settled h.supplied h.fills
  | run signal =>
    exact h.withGraph (session.graph.stages_run signal) (h.settled.run hfaithful signal)
      (h.supplied.run signal) h.fills
  | take houtput =>
    exact h.withGraph (session.graph.stages_take _) (h.settled.take _) (h.supplied.take _)
      h.fills
  | commit houtput pending =>
    exact h.withGraph (session.graph.stages_commit _ pending) (h.settled.commit _ pending)
      (h.supplied.commit _ pending) h.fills

end Sound

/-- Every session that a host can reach keeps the invariant. -/
theorem Reachable.sound (hfaithful : (Admission.all : Admission β).IsFaithful)
    {session : Session β} (h : session.Reachable) : session.Sound := by
  induction h with
  | empty => exact Sound.empty
  | step _ hstep ih => exact ih.step hfaithful hstep

/-- Where equality is told by its test, behind a run that is not cancelled every stage that an
output depends on holds what it gives from scratch for the values supplied last; a stage of one
value gives exactly one. -/
theorem Reachable.holds_scratch
    (hequal : ∀ (b : β) (one other : Payload.Carrier b),
      Payload.beq b one other = true ↔ one = other)
    {session : Session β} (h : session.Reachable) {signal : Signal} {summary : Summary}
    (hok : (session.graph.run signal).2.2 = .ok summary) {id : Nat} {kind : Kind β}
    (hwanted : Wanted session.graph.stages id)
    (hkind : (session.graph.stages[id]?).bind Stage.kind? = some kind) :
    ∃ values, Denotes session.supplied session.graph.stages id kind values ∧
      (session.graph.run signal).1.peek? (⟨id⟩ : Values kind) = some values ∧
      (⟨kind, ⟨id⟩⟩ ∈ session.singles → ∃ value, values = [value]) := by
  have hfaithful : (Admission.all : Admission β).IsFaithful :=
    fun b one other _ _ hbeq => (hequal b one other).mp hbeq
  have hsound := h.sound hfaithful
  obtain ⟨values, hvalues⟩ := hsound.settled.linked.exists_denotes session.supplied hkind
  have hholds := hsound.settled.run_ok_batch? hfaithful hsound.supplied hok hwanted
  refine ⟨values, hvalues, StageGraph.peek?_eq_some (hholds.trans hvalues), fun hsingle => ?_⟩
  obtain ⟨value, hvalue⟩ := hsound.singles session.supplied hsound.fills _ hsingle
  have hboth := hvalue.symm.trans hvalues
  cases hboth
  exact ⟨value, rfl⟩

/-! ## A session with numbers -/

/-- The base kind of a graph of numbers. -/
inductive Plain where
  /-- Numbers. -/
  | number
deriving DecidableEq

@[reducible] instance : Payload Plain := ⟨fun _ => Nat, fun _ one other => one == other⟩

namespace Plain

/-- The kind of numbers. -/
abbrev numbers : Kind Plain := .base .number

/-- Some numbers. -/
def few : List numbers.Val := ([1, 2] : List Nat)

/-- Other numbers, one of which is among the few. -/
def others : List numbers.Val := ([2, 5, 2] : List Nat)

/-- Increase a number. -/
def increase : numbers.Val → numbers.Val := fun (item : Nat) => item + 1

/-- Equality of numbers is told by its test. -/
theorem beq_eq_true_iff (b : Plain) (one other : Payload.Carrier b) :
    Payload.beq b one other = true ↔ one = other :=
  beq_iff_eq (α := Nat)

end Plain

/-- A source of numbers, each of them increased, all of them gathered and handed out; a few numbers
are supplied. -/
def counting : Session Plain :=
  let session := ({} : Session Plain).addSource Plain.numbers
  let session := { session with values := ⟨Plain.numbers, ⟨0⟩⟩ :: session.values }
  let session := session.addValues
    (StageGraph.map Plain.numbers (⟨0⟩ : Values Plain.numbers) Plain.increase)
  let session := session.addSingle (StageGraph.collect (⟨1⟩ : Values Plain.numbers))
  let session := session.addOutput (StageGraph.output (⟨2⟩ : Single (.list Plain.numbers)))
  { session with
    graph := (session.graph.setSource (⟨0⟩ : Source Plain.numbers) Plain.few).1
    supplied := session.supplied.set 0 Plain.numbers Plain.few }

/-- The session with numbers is one that a host can reach. -/
theorem counting_reachable : counting.Reachable := by
  have hempty : ({} : Session Plain).Reachable := .empty
  have hsource := hempty.step (.source Plain.numbers)
  have hvalues := hsource.step (.sourceValues List.mem_cons_self)
  have hmap := hvalues.step (.map Plain.numbers List.mem_cons_self Plain.increase)
  have hcollect := hmap.step (.collect List.mem_cons_self)
  have houtput := hcollect.step (.output List.mem_cons_self)
  exact houtput.step (.setSource List.mem_cons_self Plain.few)

/-- The session with numbers behind its first run, with other numbers supplied. -/
def recounting : Session Plain :=
  { counting with
    graph := ((counting.graph.run .quiet).1.setSource
      (⟨0⟩ : Source Plain.numbers) Plain.others).1
    supplied := counting.supplied.set 0 Plain.numbers Plain.others }

/-- It is one that a host can reach. -/
theorem recounting_reachable : recounting.Reachable :=
  (counting_reachable.step (.run .quiet)).step (.setSource List.mem_cons_self Plain.others)

/-- A request that lets five polls pass. -/
def Plain.request : Signal := ⟨.live (some 5), []⟩

/-- The session behind a second run, which is given up between the increased numbers and the
gathered ones. -/
def halted : Session Plain :=
  { recounting with graph := (recounting.graph.run Plain.request).1 }

/-- It is one that a host can reach. -/
theorem halted_reachable : halted.Reachable := recounting_reachable.step (.run Plain.request)

/-- Behind its first run the session with numbers holds the increased numbers. With other numbers
supplied, a run that is given up leaves the old ones gathered, and the run behind that one gathers
the new ones. -/
theorem counting_holds_scratch :
    (∀ (b : Plain) (one other : Payload.Carrier b),
      Payload.beq b one other = true ↔ one = other) ∧
    ((counting.graph.run .quiet).2.2 = .ok ⟨2, 2⟩ ∧
      (counting.graph.run .quiet).1.peek? (⟨2⟩ : Values (.list Plain.numbers)) =
        some [([2, 3] : List Nat)]) ∧
    ((recounting.graph.run Plain.request).2.2 = .error .cancelled ∧
      halted.graph.peek? (⟨1⟩ : Values Plain.numbers) = some ([3, 6, 3] : List Nat) ∧
      halted.graph.peek? (⟨2⟩ : Values (.list Plain.numbers)) = some [([2, 3] : List Nat)]) ∧
    (halted.graph.run .quiet).2.2 = .ok ⟨1, 1⟩ ∧
      (halted.graph.run .quiet).1.peek? (⟨2⟩ : Values (.list Plain.numbers)) =
        some [([3, 6, 3] : List Nat)] := by
  have hgathers : ∀ {session : Session Plain} {summary : Summary} {gathered : List Nat},
      session.Reachable → (session.graph.run .quiet).2.2 = .ok summary →
      session.graph.stages[3]? = some (.output (.list Plain.numbers) 2) →
      (session.graph.stages[2]?).bind Stage.kind? = some (.list Plain.numbers) →
      Denotes session.supplied session.graph.stages 2 (.list Plain.numbers) [gathered] →
      (session.graph.run .quiet).1.peek? (⟨2⟩ : Values (.list Plain.numbers)) =
        some [gathered] := by
    intro session summary gathered hreachable hok houtput hkind hscratch
    have hwanted : Wanted session.graph.stages 2 :=
      .input (.output houtput rfl) houtput List.mem_cons_self
    obtain ⟨values, hvalues, hholds, _⟩ :=
      hreachable.holds_scratch Plain.beq_eq_true_iff hok hwanted hkind
    cases hvalues.symm.trans hscratch
    exact hholds
  have hfirst := hgathers counting_reachable rfl rfl rfl rfl
  have hlast := hgathers halted_reachable rfl rfl rfl rfl
  exact ⟨Plain.beq_eq_true_iff, ⟨rfl, hfirst⟩, ⟨rfl, rfl, rfl⟩, rfl, hlast⟩

end Session

end TemplateCodegen.Incremental
