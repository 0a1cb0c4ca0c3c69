import TemplateCodegen.Definition.Basic
import TemplateCodegen.Template.Context

/-!
# Usages

The places where generators are applied, as the host reports them, and usages that were bound to a
definition together with the context in which its templates are rendered.
-/

namespace TemplateCodegen

/-- What a generator is applied to at a usage. -/
inductive UsageTarget where
  /-- A member of a class. -/
  | onMember (owner : ClassIdentifier) (member : String)
  /-- A class. -/
  | onClass (owner : ClassIdentifier)
  /-- The assembly as a whole. -/
  | onAssembly
deriving BEq, Repr

namespace UsageTarget

/-- The class that the target is or belongs to. -/
def owner? : UsageTarget → Option ClassIdentifier
  | .onMember owner _ => some owner
  | .onClass owner => some owner
  | .onAssembly => none

/-- Whether generators of a kind may be applied to the target. -/
def accepts : UsageTarget → GeneratorKind → Bool
  | .onMember _ _, .onField => true
  | .onClass _, .onClass => true
  | .onAssembly, .onAssembly => true
  | _, _ => false

/-- The target as it is shown. -/
def shown : UsageTarget → String
  | .onMember owner member => "member '" ++ owner.fullName ++ "." ++ member ++ "'"
  | .onClass owner => "class '" ++ owner.fullName ++ "'"
  | .onAssembly => "the assembly"

end UsageTarget

/-- An argument written with the name of its parameter. -/
structure NamedArgument where
  /-- The name. -/
  name : String
  /-- The argument. -/
  value : String
deriving DecidableEq, Repr

/-- A place where a generator is applied. -/
structure Usage where
  /-- The attribute as written, with or without its suffix. -/
  generator : ClassIdentifier
  /-- What it is applied to. -/
  target : UsageTarget
  /-- The arguments by position. -/
  arguments : List String := []
  /-- The arguments by name, in order. -/
  namedArguments : List NamedArgument := []
  /-- Where it stands. -/
  location : Option String := none
deriving BEq, Repr

namespace Usage

/-- A usage without arguments. -/
def ofTarget (generator : ClassIdentifier) (target : UsageTarget) : Usage := { generator, target }

/-- The usage with one more argument by position. -/
def addArgument (usage : Usage) (value : String) : Usage :=
  { usage with arguments := usage.arguments ++ [value] }

/-- The usage with one more argument by name. -/
def addNamedArgument (usage : Usage) (name value : String) : Usage :=
  { usage with namedArguments := usage.namedArguments ++ [⟨name, value⟩] }

end Usage

/-- A usage with its definition and the context for the definition's templates. -/
structure BoundUsage where
  /-- The definition. -/
  definition : Definition
  /-- What it is applied to. -/
  target : UsageTarget
  /-- The values of the placeholders. -/
  context : Context
  /-- Where the usage stands. -/
  location : Option String
deriving BEq

end TemplateCodegen
