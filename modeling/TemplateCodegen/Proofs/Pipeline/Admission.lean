import TemplateCodegen.Pipeline.Wiring
import TemplateCodegen.Proofs.Definition.Tolerance
import TemplateCodegen.Proofs.Incremental.Resumption
import TemplateCodegen.Proofs.Incremental.Settled

/-!
# What flows through the pipeline when the host supplies certain records

A host is restricted to some configurations, declarations and usages. The definitions that can then
be bound and the usages that can be bound to them are all that flows through the generation graph:
every stage function of the pipeline makes admitted values out of admitted values. The polls of each
of them are counted, and none is cancelled but by a poll.
-/

namespace TemplateCodegen

open Incremental

/-- Which records a host may supply. -/
structure Host where
  /-- The configurations. -/
  config : Config → Prop
  /-- The declarations. -/
  declaration : Declaration → Prop
  /-- The usages. -/
  usage : Usage → Prop

/-- A host that may supply everything. -/
def Host.all : Host := ⟨fun _ => True, fun _ => True, fun _ => True⟩

/-- A walk that keeps or drops every item keeps only items that were given. -/
theorem mem_of_walk {α : Type} {walk : List α → List α → Reported (List α)}
    (hnil : ∀ kept, (walk kept []).value = some kept)
    (hcons : ∀ kept first rest, (walk kept (first :: rest)).value = (walk kept rest).value ∨
      (walk kept (first :: rest)).value = (walk (kept ++ [first]) rest).value)
    {kept items found : List α} (h : (walk kept items).value = some found) {item : α}
    (hmem : item ∈ found) : item ∈ kept ∨ item ∈ items := by
  induction items generalizing kept with
  | nil =>
    rw [hnil] at h
    obtain rfl : kept = found := Option.some.inj h
    exact .inl hmem
  | cons first rest ih =>
    rcases hcons kept first rest with hdrop | hkeep
    · rw [hdrop] at h
      rcases ih h with hkept | hrest
      · exact .inl hkept
      · exact .inr (List.mem_cons_of_mem first hrest)
    · rw [hkeep] at h
      rcases ih h with hkept | hrest
      · rcases List.mem_append.mp hkept with hkept | hfirst
        · exact .inl hkept
        · rw [List.mem_singleton.mp hfirst]
          exact .inr List.mem_cons_self
      · exact .inr (List.mem_cons_of_mem first hrest)

/-- Only definitions that were given are kept. -/
theorem mem_of_dedupeFrom {kept definitions found : List Definition}
    (h : (dedupeFrom kept definitions).value = some found) {definition : Definition}
    (hmem : definition ∈ found) : definition ∈ kept ∨ definition ∈ definitions := by
  have hcons : ∀ kept first rest,
      (dedupeFrom kept (first :: rest)).value = (dedupeFrom kept rest).value ∨
        (dedupeFrom kept (first :: rest)).value = (dedupeFrom (kept ++ [first]) rest).value := by
    intro kept first rest
    rw [dedupeFrom]
    split
    · exact .inl rfl
    · exact .inr rfl
  exact mem_of_walk (fun _ => rfl) hcons h hmem

/-- Only usages that were given are kept. -/
theorem mem_of_enforceFrom {kept usages found : List BoundUsage}
    (h : (enforceFrom kept usages).value = some found) {usage : BoundUsage}
    (hmem : usage ∈ found) : usage ∈ kept ∨ usage ∈ usages := by
  have hcons : ∀ kept first rest,
      (enforceFrom kept (first :: rest)).value = (enforceFrom kept rest).value ∨
        (enforceFrom kept (first :: rest)).value = (enforceFrom (kept ++ [first]) rest).value := by
    intro kept first rest
    rw [enforceFrom]
    split
    · exact .inl rfl
    · exact .inr rfl
  exact mem_of_walk (fun _ => rfl) hcons h hmem

/-- What holds of all items of a list that may be there holds of all items of what stands for it. -/
theorem forall_mem_getD {α : Type} {P : α → Prop} {found : Option (List α)}
    (h : ∀ items, found = some items → ∀ item ∈ items, P item) :
    ∀ item ∈ found.getD [], P item := by
  cases found with
  | none => exact fun item hmem => nomatch hmem
  | some items => exact h items rfl

/-- The polls of the stage function that binds declarations are counted. -/
theorem bindingStage_isSteady : bindingStage.IsSteady := by
  intro entry
  obtain ⟨polls, hpolls⟩ := bindDefinitionWith_polls entry.1 entry.2
  refine ⟨polls, fun token spent => ?_⟩
  have hbind := hpolls token spent
  simp only [bindingStage]
  cases hafter : token.after polls with
  | none =>
    rw [hafter] at hbind
    obtain ⟨signal, hsignal⟩ := hbind
    rw [hsignal]
    exact ⟨signal, rfl⟩
  | some next =>
    rw [hafter] at hbind
    dsimp only at hbind
    rw [hbind]

namespace Host

/-- The definitions that are bound from what the host may supply. -/
def Defines (host : Host) (definition : Definition) : Prop :=
  ∃ declaration config, host.declaration declaration ∧ host.config config ∧
    (bindDefinition declaration config).value = some definition

/-- The bound usages that are made of what the host may supply. -/
def Binds (host : Host) (bound : BoundUsage) : Prop :=
  ∃ definition usage, host.Defines definition ∧ host.usage usage ∧
    (bindTo definition usage).value = some bound

/-- The values that flow through the pipeline when the host supplies what it may. -/
def admission (host : Host) : Admission Traffic
  | .config, config => host.config config
  | .declaration, declaration => host.declaration declaration
  | .usage, usage => host.usage usage
  | .boundDeclaration, result => ∀ definition, result.value = some definition →
    host.Defines definition
  | .definition, definition => host.Defines definition
  | .claims, result => ∀ definitions, result.value = some definitions →
    ∀ definition ∈ definitions, host.Defines definition
  | .resolution, result => ∀ binding, result = some binding →
    ∀ bound, binding.value = some bound → host.Binds bound
  | .binding, binding => ∀ bound, binding.value = some bound → host.Binds bound
  | .boundUsage, bound => host.Binds bound
  | .multiplicity, result => ∀ bounds, result.value = some bounds →
    ∀ bound ∈ bounds, host.Binds bound
  | .diagnostic, _ => True
  | .rendered, _ => True
  | .collected, _ => True
  | .artifact, _ => True

/-- The stage makes admitted values out of admitted ones, and its polls are counted. -/
def Allows (host : Host) (stage : Stage Traffic) : Prop :=
  stage.Keeps host.admission ∧ stage.IsSteady

variable (host : Host)

/-- A function that makes admitted values out of admitted ones is allowed. -/
theorem allows_ofPure {domain codomain : Kind Traffic} (input : Nat)
    {f : domain.Val → List codomain.Val}
    (h : ∀ element, domain.Admits host.admission element →
      ∀ value ∈ f element, codomain.Admits host.admission value) :
    host.Allows (.map domain codomain input (.ofPure f)) :=
  ⟨h, StageFn.isSteady_ofPure f⟩

/-- A function to one value that makes admitted values out of admitted ones is allowed. -/
theorem allows_map {domain codomain : Kind Traffic} (input : Nat) {f : domain.Val → codomain.Val}
    (h : ∀ element, domain.Admits host.admission element →
      codomain.Admits host.admission (f element)) :
    host.Allows (.map domain codomain input (.ofPure fun element => [f element])) := by
  refine host.allows_ofPure input fun element helement value hvalue => ?_
  rw [List.mem_singleton.mp hvalue]
  exact h element helement

/-- Sources, pairings, gatherings and outputs are allowed. -/
theorem allows_of_not_map {stage : Stage Traffic}
    (h : ∀ domain codomain input fn, stage ≠ .map domain codomain input fn) :
    host.Allows stage := by
  cases stage with
  | map domain codomain input fn => exact absurd rfl (h domain codomain input fn)
  | source kind => exact ⟨trivial, trivial⟩
  | combine left right leftInput rightInput => exact ⟨trivial, trivial⟩
  | collect kind input => exact ⟨trivial, trivial⟩
  | output kind input => exact ⟨trivial, trivial⟩

/-- The stage that binds declarations is allowed. -/
theorem allows_bindingStage (input : Nat) :
    host.Allows (.map (.pair Traffic.declaration.kind Traffic.config.kind)
      Traffic.boundDeclaration.kind input bindingStage) := by
  refine ⟨fun entry hentry value hvalue definition hdefinition => ?_, bindingStage_isSteady⟩
  obtain rfl := List.mem_singleton.mp hvalue
  exact ⟨entry.1, entry.2, hentry.1, hentry.2, hdefinition⟩

/-- The stage that gives attribute classes to definitions is allowed. -/
theorem allows_dedupeDefinitions (input : Nat) :
    host.Allows (.map Traffic.definition.listKind Traffic.claims.kind input
      (.ofPure fun definitions => [dedupeDefinitions definitions])) := by
  refine host.allows_map input fun definitions hdefinitions found hfound definition hmem => ?_
  rcases mem_of_dedupeFrom hfound hmem with hnone | hmem
  · exact nomatch hnone
  · exact hdefinitions definition hmem

/-- The stage that looks up and binds usages is allowed. -/
theorem allows_bindUsage (input : Nat) :
    host.Allows (.map (.pair Traffic.usage.kind Traffic.definition.listKind)
      Traffic.resolution.kind input
      (.ofPure fun (entry : Usage × List Definition) => [bindUsage entry.2 entry.1])) := by
  refine host.allows_map input fun entry hentry binding hbinding bound hbound => ?_
  obtain ⟨definition, hfind, rfl⟩ := Option.map_eq_some_iff.mp hbinding
  exact ⟨definition, entry.1, hentry.2 definition (List.mem_of_find?_eq_some hfind), hentry.1,
    hbound⟩

/-- The stage that drops forbidden repeats is allowed. -/
theorem allows_enforceMultiplicity (input : Nat) :
    host.Allows (.map Traffic.boundUsage.listKind Traffic.multiplicity.kind input
      (.ofPure fun usages => [enforceMultiplicity usages])) := by
  refine host.allows_map input fun usages husages found hfound usage hmem => ?_
  rcases mem_of_enforceFrom hfound hmem with hnone | hmem
  · exact nomatch hnone
  · exact husages usage hmem

end Host

end TemplateCodegen
