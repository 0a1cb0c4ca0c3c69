import TemplateCodegen.Diagnostic.Finding
import TemplateCodegen.Parameter.ValueType
import TemplateCodegen.Text.Casing

/-!
# Parameters of generators

A generator declares required parameters, which a usage fills by position, optional parameters,
which it fills by name, and generic parameters, which stand for its type arguments. The required
ones are put in order by the position each asks for; those that ask for none come as if they asked
for the last, and among equals the declaration decides.
-/

namespace TemplateCodegen

/-- The default of a parameter: its literal as written and the constant that the literal denotes. -/
structure Initializer where
  /-- The literal as written. -/
  text : String
  /-- The constant. -/
  value : String
deriving DecidableEq, Repr

/-- The tail of a declaration that repeats the default: nothing without a default, or when its
literal is blank. -/
def Initializer.literal : Option Initializer → String
  | some initializer =>
    if Text.isBlankText initializer.text then "" else " = " ++ initializer.text ++ ";"
  | none => ""

/-- The constant of the default; the empty text without a default. -/
def Initializer.constant : Option Initializer → String
  | some initializer => initializer.value
  | none => ""

/-- A parameter filled by position. -/
structure RequiredParameter where
  /-- The position asked for, if any. -/
  requestedOrder : Option Int32
  /-- The place among the required parameters as declared, from 1. -/
  declaredOrder : Nat
  /-- The declared name. -/
  name : String
  /-- The type. -/
  type : ParameterType
  /-- The type as spelled in the declaration. -/
  typeText : String
  /-- The default, kept for the host. -/
  initializer : Option Initializer
  /-- Where the parameter is declared. -/
  location : Option String
deriving DecidableEq

/-- A parameter filled by name. -/
structure OptionalParameter where
  /-- The declared name. -/
  name : String
  /-- The type. -/
  type : ParameterType
  /-- The type as spelled in the declaration. -/
  typeText : String
  /-- The default that stands in for a missing argument. -/
  initializer : Option Initializer
deriving DecidableEq

/-- A parameter that stands for a type argument. -/
structure GenericParameter where
  /-- The declared name. -/
  name : String
deriving DecidableEq, Repr

/-- The name under which templates know the parameter: the declared one with an upper-case first
character. -/
def RequiredParameter.pascalName (parameter : RequiredParameter) : String :=
  Text.upperFirst parameter.name

/-- The name under which templates know the parameter: the declared one with an upper-case first
character. -/
def OptionalParameter.pascalName (parameter : OptionalParameter) : String :=
  Text.upperFirst parameter.name

/-- Generic parameters keep their declared name in templates. -/
def GenericParameter.pascalName (parameter : GenericParameter) : String := parameter.name

/-- The key by which required parameters are put in order: the position asked for, or the greatest
one, and then the place in the declaration. -/
def RequiredParameter.sortKey (parameter : RequiredParameter) : Int × Nat :=
  ((parameter.requestedOrder.map Int32.toInt).getD Int32.maxValue.toInt, parameter.declaredOrder)

/-- Whether a parameter may stand in front of another one. -/
def RequiredParameter.precedes (one other : RequiredParameter) : Bool :=
  one.sortKey.1 < other.sortKey.1 ||
    (one.sortKey.1 == other.sortKey.1 && one.sortKey.2 ≤ other.sortKey.2)

/-- The required parameters of a declaration as they are met. -/
structure RequiredParameters where
  /-- The parameters in the order of their declaration. -/
  declared : List RequiredParameter

namespace RequiredParameters

/-- No required parameters yet. -/
def empty : RequiredParameters := ⟨[]⟩

/-- Add the next required parameter; its place in the declaration is given to it here. -/
def add (parameters : RequiredParameters) (name : String) (requestedOrder : Option Int32)
    (type : ParameterType) (typeText : String) (initializer : Option Initializer)
    (location : Option String) : RequiredParameters :=
  ⟨parameters.declared ++
    [{ requestedOrder, declaredOrder := parameters.declared.length + 1, name, type, typeText,
       initializer, location }]⟩

/-- The number of parameters. -/
def size (parameters : RequiredParameters) : Nat := parameters.declared.length

/-- Whether there is no parameter. -/
def isEmpty (parameters : RequiredParameters) : Bool := parameters.declared.isEmpty

/-- The warning about a parameter that asks for a position an earlier one has asked for; it names
the first of them. -/
def repeatWarning? (earlier : List RequiredParameter) (parameter : RequiredParameter) :
    Option Diagnostic :=
  match parameter.requestedOrder with
  | none => none
  | some order =>
    (earlier.find? fun first => first.requestedOrder == some order).map fun first =>
      (Finding.duplicateRequiredOrder parameter.name order.toInt first.name).located
        parameter.location

/-- The warnings about the parameters behind some earlier ones. -/
def repeatWarnings (earlier : List RequiredParameter) : List RequiredParameter → List Diagnostic
  | [] => []
  | parameter :: rest =>
    (repeatWarning? earlier parameter).toList ++ repeatWarnings (earlier ++ [parameter]) rest

/-- The parameters in order, and a warning for each that repeats a position. -/
def finish (parameters : RequiredParameters) : List RequiredParameter × List Diagnostic :=
  (parameters.declared.mergeSort RequiredParameter.precedes, repeatWarnings [] parameters.declared)

/-- Putting in order loses no parameter and makes up none. -/
theorem finish_perm (parameters : RequiredParameters) :
    parameters.finish.1.Perm parameters.declared :=
  List.mergeSort_perm parameters.declared RequiredParameter.precedes

end RequiredParameters

end TemplateCodegen
