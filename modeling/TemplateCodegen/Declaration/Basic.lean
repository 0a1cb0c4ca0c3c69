import TemplateCodegen.ClassIdentifier.Basic
import TemplateCodegen.Parameter.Basic

/-!
# Declarations

What the host knows about a generator class: its name and kind, its properties, and its members with
their constant texts and markers. Declarations are compared as the host's snapshots are: two class
identifiers that name the same class count as equal.
-/

namespace TemplateCodegen

/-- What a generator is applied to. -/
inductive GeneratorKind where
  | onField
  | onClass
  | onAssembly
deriving DecidableEq, Repr

namespace GeneratorKind

/-- The name of a kind. -/
def text : GeneratorKind → String
  | .onField => "Field"
  | .onClass => "Class"
  | .onAssembly => "Assembly"

/-- The kind of the generators with a base class of the given name. Blanks around it, `global::` and
the namespace `Stencil` in front do not matter. -/
def ofBaseType? (name : String) : Option GeneratorKind :=
  let local' := Text.withoutStart "Stencil." (Text.withoutStart "global::" (Text.trim name.toList))
  if local' = "FieldGenerator".toList then some .onField
  else if local' = "ClassGenerator".toList then some .onClass
  else if local' = "GlobalGenerator".toList then some .onAssembly
  else none

end GeneratorKind

/-- A name for the attribute that stands in the place of the derived one. -/
structure NameOverride where
  /-- The name; a blank one gives way to the derived name. -/
  name : String
  /-- The namespace; a blank or missing one gives way to the configured one. -/
  namespaceName : Option String := none
  /-- Whether the generator may be applied several times to one target. -/
  allowMultiple : Bool := false
deriving DecidableEq, Repr

/-- What the constant text of a member is a template for. -/
inductive Marker where
  /-- A fragment of the target class's artifact. -/
  | template
  /-- A file of its own, under a name that is a template too. -/
  | fileTemplate (fileName : String)
  /-- A file for the whole assembly, which holds the fragments of the children. -/
  | globalFileTemplate (generatorName fileName : String)
  /-- A fragment of a file for the whole assembly. -/
  | globalChildTemplate (generatorName : String)
deriving DecidableEq, Repr

/-- A member of a generator class. -/
structure Member where
  /-- Its name. -/
  name : String
  /-- Its markers, of which the first counts. -/
  markers : List Marker := []
  /-- Its constant text, if it is a constant. -/
  constantText : Option String := none
  /-- Where it is declared. -/
  location : Option String := none
deriving DecidableEq, Repr

/-- A constant written as the argument of a marker. -/
inductive LiteralArgument where
  | integer (value : Int)
  | bool (value : Bool)
  | text (value : String)
deriving DecidableEq, Repr

/-- The constant as it is shown; a text stands in quotes, without escapes. -/
def LiteralArgument.shown : LiteralArgument → String
  | .integer value => toString value
  | .bool true => "true"
  | .bool false => "false"
  | .text value => "\"" ++ value ++ "\""

/-- The marker of a property that usages must fill. -/
structure RequiredMarker where
  /-- The position asked for. -/
  order : Option LiteralArgument := none
deriving DecidableEq, Repr

/-- A property of a generator class. -/
structure Property where
  /-- Its name. -/
  name : String
  /-- Its type as spelled. -/
  typeText : String
  /-- What the host says about its type. -/
  typeKind : TypeKind := .primitive
  /-- Its default. -/
  initializer : Option Initializer := none
  /-- Present when usages must fill it. -/
  required : Option RequiredMarker := none
  /-- Where it is declared. -/
  location : Option String := none
deriving DecidableEq, Repr

/-- A generator class as the host describes it. -/
structure Declaration where
  /-- The class. -/
  identifier : ClassIdentifier
  /-- What it is applied to. -/
  kind : GeneratorKind
  /-- Whether it cannot be inherited from. -/
  isSealed : Bool := true
  /-- Whether it is declared in parts. -/
  isPartial : Bool := false
  /-- A name of its own for the attribute. -/
  nameOverride : Option NameOverride := none
  /-- The names of its generic parameters; none means those in its name. -/
  genericParameters : List String := []
  /-- Its members in order. -/
  members : List Member := []
  /-- Its properties in order. -/
  properties : List Property := []
  /-- Where it is declared. -/
  location : Option String := none
deriving BEq, Repr

namespace Declaration

/-- A sealed declaration without members and properties. -/
def ofIdentifier (identifier : ClassIdentifier) (kind : GeneratorKind) : Declaration :=
  { identifier, kind }

/-- The declaration with one more member. -/
def addMember (declaration : Declaration) (member : Member) : Declaration :=
  { declaration with members := declaration.members ++ [member] }

/-- The declaration with one more property. -/
def addProperty (declaration : Declaration) (property : Property) : Declaration :=
  { declaration with properties := declaration.properties ++ [property] }

/-- The declaration with a name of its own for the attribute. -/
def withNameOverride (declaration : Declaration) (name : NameOverride) : Declaration :=
  { declaration with nameOverride := some name }

end Declaration

/-- A member with one marker and a constant text. -/
def Member.ofTemplate (name : String) (marker : Marker) (text : String) : Member :=
  { name, markers := [marker], constantText := some text }

namespace Property

/-- An optional property of a primitive type without a default. -/
def ofType (name typeText : String) : Property := { name, typeText }

/-- The property as one that usages must fill. -/
def require (property : Property) (order : Option LiteralArgument) : Property :=
  { property with required := some ⟨order⟩ }

/-- The property with a default. -/
def withInitializer (property : Property) (text value : String) : Property :=
  { property with initializer := some ⟨text, value⟩ }

end Property

end TemplateCodegen
