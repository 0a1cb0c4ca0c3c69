import TemplateCodegen.Proofs.Incremental.Consistency

/-!
# Graphs built stage by stage

What a program that adds stages does to a graph: the graph grows by nodes that are blank, find their
inputs and meet a condition on stages, and the handle that comes back denotes the function of what
the handles given to it denote. One lemma for each operation says so, and `Yields.bind` puts
programs one behind the other, so a wiring is read off without running it.
-/

namespace TemplateCodegen.Incremental

variable {β : Type} [Payload β]

/-- The node may be added to the graph: it remembers nothing, finds its inputs, meets the condition
on stages, and holds what is supplied under its number if it is a source. -/
structure Node.Fits (initial : Supply β) (good : Stage β → Prop) (graph : StageGraph β)
    (node : Node β) : Prop where
  /-- The node remembers nothing. -/
  blank : node.IsBlank
  /-- The node finds its inputs. -/
  linked : node.stage.IsLinked graph.stages
  /-- The stage of the node meets the condition. -/
  good : good node.stage
  /-- A source holds what is supplied. -/
  source : ∀ kind inner, node = .source kind inner →
    inner.slot.values = initial graph.nodes.length kind

/-- One graph grows into another by nodes that fit. -/
inductive Grows (initial : Supply β) (good : Stage β → Prop) (graph : StageGraph β) :
    StageGraph β → Prop where
  | refl : Grows initial good graph graph
  | push {after : StageGraph β} {node : Node β} (h : Grows initial good graph after)
    (hfits : node.Fits initial good after) : Grows initial good graph (after.withNode node)

section Growing

variable {initial : Supply β} {good : Stage β → Prop} {graph middle after : StageGraph β}

/-- Growing twice is growing. -/
theorem Grows.trans (h : Grows initial good graph middle) (h' : Grows initial good middle after) :
    Grows initial good graph after := by
  induction h' with
  | refl => exact h
  | push _ hfits ih => exact ih.push hfits

/-- What stands in a graph stays where it is. -/
theorem Grows.getElem? (h : Grows initial good graph after) {id : Nat} {stage : Stage β}
    (hstage : graph.stages[id]? = some stage) : after.stages[id]? = some stage := by
  induction h with
  | refl => exact hstage
  | @push after node _ _ ih =>
    obtain ⟨hid, _⟩ := List.getElem?_eq_some_iff.mp ih
    rw [StageGraph.stages_withNode, List.getElem?_append_left hid]
    exact ih

/-- A graph that has grown from blank nodes has blank nodes. -/
theorem Grows.isBlank (h : Grows initial good graph after)
    (hblank : ∀ node ∈ graph.nodes, node.IsBlank) : ∀ node ∈ after.nodes, node.IsBlank := by
  induction h with
  | refl => exact hblank
  | @push after node _ hfits ih =>
    intro found hfound
    rcases List.mem_append.mp hfound with hmem | hmem
    · exact ih found hmem
    · rw [List.mem_singleton.mp hmem]
      exact hfits.blank

/-- A graph that has grown from linked stages has linked stages. -/
theorem Grows.isLinked (h : Grows initial good graph after) (hlinked : IsLinked graph.stages) :
    IsLinked after.stages := by
  induction h with
  | refl => exact hlinked
  | @push after node _ hfits ih =>
    rw [StageGraph.stages_withNode]
    exact ih.concat hfits.linked

/-- A graph that has grown from supplied sources has supplied sources. -/
theorem Grows.isSupplied (h : Grows initial good graph after)
    (hsupplied : IsSupplied initial graph.nodes) : IsSupplied initial after.nodes := by
  induction h with
  | refl => exact hsupplied
  | push _ hfits ih => exact ih.withNode hfits.source

/-- The stages of a graph meet the condition when those that it has grown from do. -/
theorem Grows.forall_good (h : Grows initial good graph after)
    (hgood : ∀ stage ∈ graph.stages, good stage) : ∀ stage ∈ after.stages, good stage := by
  induction h with
  | refl => exact hgood
  | @push after node _ hfits ih =>
    rw [StageGraph.stages_withNode]
    intro stage hstage
    rcases List.mem_append.mp hstage with hmem | hmem
    · exact ih stage hmem
    · rw [List.mem_singleton.mp hmem]
      exact hfits.good

variable [DecidableEq β]

/-- What is denoted in a graph stays denoted. -/
theorem Grows.denotes (h : Grows initial good graph after) {supply : Supply β} {id : Nat}
    {kind : Kind β} {values : List kind.Val}
    (hvalues : Denotes supply graph.stages id kind values) :
    Denotes supply after.stages id kind values := by
  induction h with
  | refl => exact hvalues
  | @push after node _ _ ih =>
    rw [StageGraph.stages_withNode]
    exact ih.concat node.stage

end Growing

/-- The program lets the graph grow, and what comes back and the graph behind it meet the
condition. -/
def Yields {α : Type} (initial : Supply β) (good : Stage β → Prop) (graph : StageGraph β)
    (program : StateM (StageGraph β) α) (post : α → StageGraph β → Prop) : Prop :=
  Grows initial good graph (program.run graph).2 ∧ post (program.run graph).1 (program.run graph).2

namespace Yields

variable {initial : Supply β} {good : Stage β → Prop} {graph : StageGraph β}

/-- A program that adds nothing. -/
theorem pure {α : Type} {value : α} {post : α → StageGraph β → Prop} (h : post value graph) :
    Yields initial good graph (Pure.pure value) post :=
  ⟨.refl, h⟩

/-- A program behind another one. -/
theorem bind {α γ : Type} {program : StateM (StageGraph β) α}
    {next : α → StateM (StageGraph β) γ} {post : α → StageGraph β → Prop}
    {post' : γ → StageGraph β → Prop} (h : Yields initial good graph program post)
    (hnext : ∀ value after, Grows initial good graph after → post value after →
      Yields initial good after (next value) post') :
    Yields initial good graph (program >>= next) post' := by
  obtain ⟨hgrows, hpost⟩ := h
  obtain ⟨hgrows', hpost'⟩ := hnext _ _ hgrows hpost
  exact ⟨hgrows.trans hgrows', hpost'⟩

/-- The addition of a node under a handle. -/
theorem push {α : Type} {node : Node β} {handle : Nat → α} {post : α → StageGraph β → Prop}
    (hfits : node.Fits initial good graph)
    (h : post (handle graph.nodes.length) (graph.withNode node)) :
    Yields initial good graph (do return handle (← StageGraph.push node)) post :=
  ⟨Grows.refl.push hfits, h⟩

/-! ## The operations -/

/-- The addition of a source. -/
theorem source (kind : Kind β) (hgood : good (.source kind))
    (hinitial : initial graph.stages.length kind = []) :
    Yields initial good graph (StageGraph.source kind) fun source after =>
      source.id = graph.stages.length ∧ after.stages = graph.stages ++ [.source kind] := by
  refine push { blank := trivial, linked := trivial, good := hgood, source := ?_ }
    ⟨graph.length_stages.symm, graph.stages_withNode _⟩
  intro found inner hinner
  cases hinner
  rw [← graph.length_stages]
  exact hinitial.symm

/-- The addition of a source of one value. -/
theorem singleSource (kind : Kind β) (value : kind.Val) (hgood : good (.source kind))
    (hinitial : initial graph.stages.length kind = [value]) :
    Yields initial good graph (StageGraph.singleSource kind value) fun source after =>
      source.id = graph.stages.length ∧ after.stages = graph.stages ++ [.source kind] := by
  refine push { blank := trivial, linked := trivial, good := hgood, source := ?_ }
    ⟨graph.length_stages.symm, graph.stages_withNode _⟩
  intro found inner hinner
  cases hinner
  rw [← graph.length_stages]
  exact hinitial.symm

/-- The addition of an output. -/
theorem output {kind : Kind β} {input : Single kind}
    (hlinked : (graph.stages[input.id]?).bind Stage.kind? = some kind)
    (hgood : good (.output kind input.id)) :
    Yields initial good graph (StageGraph.output input) fun output after =>
      after.stages[output.id]? = some (.output kind input.id) :=
  push { blank := rfl, linked := hlinked, good := hgood, source := by simp }
    (graph.getElem?_withNode _)

variable [DecidableEq β] {supply : Supply β}

/-- The addition of an application of a function to every element. -/
theorem addMap {α : Type} {handle : Nat → α} {domain codomain : Kind β} {input : Nat}
    {values : List domain.Val} {post : α → StageGraph β → Prop}
    (h : Denotes supply graph.stages input domain values) (fn : StageFn domain.Val codomain.Val)
    (hgood : good (.map domain codomain input fn))
    (hpost : ∀ after : StageGraph β, Denotes supply after.stages graph.nodes.length codomain
      (values.flatMap fn.value) → post (handle graph.nodes.length) after) :
    Yields initial good graph (do return handle (← StageGraph.addMap input fn)) post := by
  refine push ?_ (hpost _ (h.map codomain fn).withNode)
  exact { blank := ⟨rfl, rfl, rfl⟩, linked := h.kind?, good := hgood, source := by simp }

/-- The addition of a pairing. -/
theorem addCombine {α : Type} {handle : Nat → α} {left right : Kind β} {leftInput rightInput : Nat}
    {lefts : List left.Val} {rights : List right.Val} {post : α → StageGraph β → Prop}
    (hleft : Denotes supply graph.stages leftInput left lefts)
    (hright : Denotes supply graph.stages rightInput right rights)
    (hgood : good (.combine left right leftInput rightInput))
    (hpost : ∀ after : StageGraph β, Denotes supply after.stages graph.nodes.length
      (.pair left right) (pairUp lefts rights) → post (handle graph.nodes.length) after) :
    Yields initial good graph
      (do return handle (← StageGraph.push
        (.combine left right { leftSource := leftInput, rightSource := rightInput }))) post := by
  refine push ?_ (hpost _ (hleft.combine hright).withNode)
  exact
    { blank := ⟨rfl, rfl⟩, linked := ⟨hleft.kind?, hright.kind?⟩, good := hgood, source := by simp }

/-- A stage function applied to every value. -/
theorem tryMap {domain : Kind β} (codomain : Kind β) {input : Values domain}
    {values : List domain.Val}
    (h : Denotes supply graph.stages input.id domain values)
    (fn : StageFn domain.Val codomain.Val) (hgood : good (.map domain codomain input.id fn)) :
    Yields initial good graph (StageGraph.tryMap codomain input fn) fun output after =>
      Denotes supply after.stages output.id codomain (values.flatMap fn.value) :=
  addMap h fn hgood fun _ hlast => hlast

/-- A function applied to every value. -/
theorem map {domain : Kind β} (codomain : Kind β) {input : Values domain} {values : List domain.Val}
    (h : Denotes supply graph.stages input.id domain values) (f : domain.Val → codomain.Val)
    (hgood : good (.map domain codomain input.id (.ofPure fun element => [f element]))) :
    Yields initial good graph (StageGraph.map codomain input f) fun output after =>
      Denotes supply after.stages output.id codomain (values.map f) := by
  refine addMap h _ hgood fun _ hlast => ?_
  rw [List.map_eq_flatMap]
  exact hlast

/-- A function to any number of values applied to every value. -/
theorem flatMap {domain : Kind β} (codomain : Kind β) {input : Values domain}
    {values : List domain.Val}
    (h : Denotes supply graph.stages input.id domain values) (f : domain.Val → List codomain.Val)
    (hgood : good (.map domain codomain input.id (.ofPure f))) :
    Yields initial good graph (StageGraph.flatMap codomain input f) fun output after =>
      Denotes supply after.stages output.id codomain (values.flatMap f) :=
  addMap h _ hgood fun _ hlast => hlast

/-- A function applied to one value. -/
theorem mapSingle {domain : Kind β} (codomain : Kind β) {input : Single domain} {value : domain.Val}
    (h : Denotes supply graph.stages input.id domain [value]) (f : domain.Val → codomain.Val)
    (hgood : good (.map domain codomain input.id (.ofPure fun element => [f element]))) :
    Yields initial good graph (StageGraph.mapSingle codomain input f) fun output after =>
      Denotes supply after.stages output.id codomain [f value] :=
  addMap h _ hgood fun _ hlast => hlast

/-- Values paired with one value. -/
theorem combine {left right : Kind β} {input : Values left} {partner : Single right}
    {values : List left.Val} {value : right.Val}
    (hinput : Denotes supply graph.stages input.id left values)
    (hpartner : Denotes supply graph.stages partner.id right [value])
    (hgood : good (.combine left right input.id partner.id)) :
    Yields initial good graph (StageGraph.combine input partner) fun output after =>
      Denotes supply after.stages output.id (.pair left right)
        (values.map fun element => (element, value)) :=
  addCombine hinput hpartner hgood fun _ hlast => hlast

/-- Two values paired. -/
theorem combineSingle {left right : Kind β} {input : Single left} {partner : Single right}
    {one : left.Val} {other : right.Val}
    (hinput : Denotes supply graph.stages input.id left [one])
    (hpartner : Denotes supply graph.stages partner.id right [other])
    (hgood : good (.combine left right input.id partner.id)) :
    Yields initial good graph (StageGraph.combineSingle input partner) fun output after =>
      Denotes supply after.stages output.id (.pair left right) [(one, other)] :=
  addCombine hinput hpartner hgood fun _ hlast => hlast

/-- Values gathered into one list. -/
theorem collect {kind : Kind β} {input : Values kind} {values : List kind.Val}
    (h : Denotes supply graph.stages input.id kind values) (hgood : good (.collect kind input.id)) :
    Yields initial good graph (StageGraph.collect input) fun output after =>
      Denotes supply after.stages output.id (.list kind) [(values : (Kind.list kind).Val)] := by
  refine push ?_ h.collect.withNode
  exact { blank := ⟨rfl, rfl⟩, linked := h.kind?, good := hgood, source := by simp }

/-- Two lists put one behind the other. -/
theorem concat {kind : Kind β} {left right : Single (.list kind)} {lefts rights : List kind.Val}
    (hleft : Denotes supply graph.stages left.id (.list kind) [(lefts : (Kind.list kind).Val)])
    (hright : Denotes supply graph.stages right.id (.list kind) [(rights : (Kind.list kind).Val)])
    (hpair : good (.combine (.list kind) (.list kind) left.id right.id))
    (hgood : ∀ input, good (.map (.pair (.list kind) (.list kind)) (.list kind) input
      (.ofPure fun (lists : List kind.Val × List kind.Val) => [lists.1.append lists.2]))) :
    Yields initial good graph (StageGraph.concat left right) fun output after =>
      Denotes supply after.stages output.id (.list kind)
        [(lefts ++ rights : (Kind.list kind).Val)] := by
  refine (combineSingle hleft hright hpair).bind fun pair after _ hpaired => ?_
  exact mapSingle (.list kind) hpaired _ (hgood pair.id)

end Yields

end TemplateCodegen.Incremental
