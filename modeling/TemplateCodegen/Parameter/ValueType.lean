import TemplateCodegen.Text.Blank
import TemplateCodegen.Text.Letter
import TemplateCodegen.Text.Segments
import TemplateCodegen.Text.Strip

/-!
# Types of parameters

A generator parameter has a type whose constants can be written at a usage: a primitive type under
one of its spellings, or an enumeration or a reference type under a plain dotted name. Nullable
types, arrays and constructed generic types have no such name and are refused.
-/

namespace TemplateCodegen

/-- How the host classifies the type of a property. -/
inductive TypeKind where
  | primitive
  | enumeration
  | reference
deriving DecidableEq, Repr

/-- A type that a parameter may have. -/
inductive ParameterType where
  | sbyte
  | byte
  | short
  | ushort
  | int
  | uint
  | long
  | ulong
  | char
  | float
  | double
  | decimal
  | bool
  | string
  | object
  | enumeration (name : String)
  | reference (name : String)
deriving DecidableEq, Repr

namespace ParameterType

/-- The primitive types under their two spellings: the keyword and the name of the class. -/
def primitiveSpellings : List (String × String × ParameterType) :=
  [("sbyte", "System.SByte", .sbyte), ("byte", "System.Byte", .byte),
   ("short", "System.Int16", .short), ("ushort", "System.UInt16", .ushort),
   ("int", "System.Int32", .int), ("uint", "System.UInt32", .uint),
   ("long", "System.Int64", .long), ("ulong", "System.UInt64", .ulong),
   ("char", "System.Char", .char), ("float", "System.Single", .float),
   ("double", "System.Double", .double), ("decimal", "System.Decimal", .decimal),
   ("bool", "System.Boolean", .bool), ("string", "System.String", .string),
   ("object", "System.Object", .object)]

/-- The primitive type that is spelled so. -/
def ofPrimitiveSpelling? (text : String) : Option ParameterType :=
  (primitiveSpellings.find? fun entry => text == entry.1 || text == entry.2.1).map (·.2.2)

/-- Whether a segment of a name begins with a letter or an underscore and goes on with word
characters and underscores. -/
def isNameSegment : List Char → Bool
  | [] => false
  | first :: rest =>
    (Text.isLetter first || first == '_') && rest.all fun c => Text.isWordChar c || c == '_'

/-- Whether a text is a plain dotted name. -/
def isPlainName (text : List Char) : Bool :=
  (Text.segments '.' text).all isNameSegment

/-- The type that a declaration spells, if parameters may have it. Blanks around the spelling and a
leading `global::` do not matter. -/
def ofTypeText? (text : String) (kind : TypeKind) : Option ParameterType :=
  let name := Text.withoutStart "global::" (Text.trim text.toList)
  match kind with
  | .primitive => ofPrimitiveSpelling? (String.ofList name)
  | .enumeration => if isPlainName name then some (.enumeration (String.ofList name)) else none
  | .reference => if isPlainName name then some (.reference (String.ofList name)) else none

end ParameterType

end TemplateCodegen
