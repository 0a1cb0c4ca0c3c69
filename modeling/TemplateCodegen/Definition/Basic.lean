import TemplateCodegen.ClassIdentifier.Attribute
import TemplateCodegen.Declaration.Basic
import TemplateCodegen.Template.Basic

/-!
# Generator definitions

A declaration that was accepted: its attribute class, its parameters in order, and its templates,
read and sorted by what they are for.
-/

namespace TemplateCodegen

/-- A template for a fragment of the target class's artifact. -/
structure InlineTemplate where
  /-- The member that holds it. -/
  member : String
  /-- The template. -/
  body : Template
deriving DecidableEq, Repr

/-- A template for a file of its own. -/
structure FileTemplate where
  /-- The member that holds it. -/
  member : String
  /-- The template of the file's name. -/
  fileName : Template
  /-- The template of its content. -/
  body : Template
deriving DecidableEq, Repr

/-- A template for a file that holds the fragments of the children. -/
structure GlobalFileTemplate where
  /-- The member that holds it. -/
  member : String
  /-- The name under which its children contribute. -/
  generatorName : String
  /-- The file's name. -/
  fileName : String
  /-- The template of its content. -/
  body : Template
deriving DecidableEq, Repr

/-- A template for a fragment of a global file. -/
structure GlobalChildTemplate where
  /-- The member that holds it. -/
  member : String
  /-- The name of the global file's generator. -/
  generatorName : String
  /-- The template. -/
  body : Template
deriving DecidableEq, Repr

/-- The templates of a generator, each kind in the order of the members. -/
structure TemplateSet where
  /-- Fragments of the target class's artifact. -/
  inline : List InlineTemplate := []
  /-- Files of their own. -/
  file : List FileTemplate := []
  /-- Global files. -/
  globalFile : List GlobalFileTemplate := []
  /-- Fragments of global files. -/
  globalChild : List GlobalChildTemplate := []
deriving DecidableEq, Repr

namespace TemplateSet

/-- Whether one of the templates has a node. -/
def hasContent (templates : TemplateSet) : Bool :=
  templates.inline.any (!·.body.isEmpty) || templates.file.any (!·.body.isEmpty) ||
    templates.globalFile.any (!·.body.isEmpty) || templates.globalChild.any (!·.body.isEmpty)

/-- The templates of both, kind by kind. -/
def append (one other : TemplateSet) : TemplateSet :=
  { inline := one.inline ++ other.inline
    file := one.file ++ other.file
    globalFile := one.globalFile ++ other.globalFile
    globalChild := one.globalChild ++ other.globalChild }

end TemplateSet

/-- A generator that was accepted. -/
structure Definition where
  /-- The generator class. -/
  identifier : ClassIdentifier
  /-- The attribute class by which it is applied. -/
  attributeClass : ClassIdentifier
  /-- What it is applied to. -/
  kind : GeneratorKind
  /-- Whether it may be applied several times to one target. -/
  allowMultiple : Bool
  /-- The required parameters, in the order of the arguments. -/
  required : List RequiredParameter
  /-- The optional parameters, in the order of their declaration. -/
  optional : List OptionalParameter
  /-- The generic parameters. -/
  generic : List GenericParameter
  /-- The templates. -/
  templates : TemplateSet
  /-- Where the generator is declared. -/
  location : Option String
deriving BEq

namespace Definition

/-- Whether one of the templates has a node. -/
def hasContent (definition : Definition) : Bool := definition.templates.hasContent

/-- Whether a written attribute names the generator: it is the attribute class, or the attribute
class without its suffix. -/
def isNamedBy (definition : Definition) (written : ClassIdentifier) : Bool :=
  definition.attributeClass.isSameClass written ||
    match definition.attributeClass.withoutAttributeSuffix? with
    | some short => short.isSameClass written
    | none => false

end Definition

end TemplateCodegen
