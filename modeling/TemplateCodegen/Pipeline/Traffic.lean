import TemplateCodegen.Definition.Claims
import TemplateCodegen.Incremental.Kind
import TemplateCodegen.Output.Collection
import TemplateCodegen.Usage.Binding
import TemplateCodegen.Usage.Multiplicity

/-!
# What flows through the pipeline

The base kinds of the generation graph: what the host supplies, what the stages make of it, and what
is handed out. The test of equality of a kind decides whether a stage counts as changed; where class
identifiers take part it is the one that looks at the number of generic arguments only.
-/

namespace TemplateCodegen

open Incremental

/-- The base kinds of the generation graph. -/
inductive Traffic where
  /-- The configuration. -/
  | config
  /-- A declaration. -/
  | declaration
  /-- A usage. -/
  | usage
  /-- The result of binding a declaration. -/
  | boundDeclaration
  /-- A definition. -/
  | definition
  /-- The definitions that keep their attribute classes. -/
  | claims
  /-- A diagnostic. -/
  | diagnostic
  /-- The result of looking up and binding a usage. -/
  | resolution
  /-- The result of binding a usage whose generator is known. -/
  | binding
  /-- A bound usage. -/
  | boundUsage
  /-- The bound usages that are kept. -/
  | multiplicity
  /-- The output of one usage. -/
  | rendered
  /-- The collected outputs. -/
  | collected
  /-- An artifact. -/
  | artifact
deriving DecidableEq, Repr

namespace Traffic

/-- The type of a base kind. -/
@[reducible] def Carrier : Traffic → Type
  | .config => Config
  | .declaration => Declaration
  | .usage => Usage
  | .boundDeclaration => Reported Definition
  | .definition => Definition
  | .claims => Reported (List Definition)
  | .diagnostic => Diagnostic
  | .resolution => Option (Reported BoundUsage)
  | .binding => Reported BoundUsage
  | .boundUsage => BoundUsage
  | .multiplicity => Reported (List BoundUsage)
  | .rendered => RenderedUsage
  | .collected => CollectedOutputs
  | .artifact => Artifact

/-- The test of equality of a base kind. -/
def beq : (traffic : Traffic) → traffic.Carrier → traffic.Carrier → Bool
  | .config, one, other => one == other
  | .declaration, one, other => one == other
  | .usage, one, other => one == other
  | .boundDeclaration, one, other => one == other
  | .definition, one, other => one == other
  | .claims, one, other => one == other
  | .diagnostic, one, other => one == other
  | .resolution, one, other => one == other
  | .binding, one, other => one == other
  | .boundUsage, one, other => one == other
  | .multiplicity, one, other => one == other
  | .rendered, one, other => one == other
  | .collected, one, other => one == other
  | .artifact, one, other => one == other

@[reducible] instance : Payload Traffic := ⟨Carrier, beq⟩

/-- The kind of a base kind's values. -/
abbrev kind (traffic : Traffic) : Kind Traffic := .base traffic

/-- The kind of lists of a base kind. -/
abbrev listKind (traffic : Traffic) : Kind Traffic := .list (.base traffic)

end Traffic

end TemplateCodegen
