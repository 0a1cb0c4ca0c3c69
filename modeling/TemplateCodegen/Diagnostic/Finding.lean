import TemplateCodegen.Diagnostic.Basic

/-!
# Findings of the stages

Everything that the binding of declarations and usages and the collection of outputs can report. A
finding is its cause; code and wording follow from it. Class names and targets enter as they are
shown.
-/

namespace TemplateCodegen

/-- What a stage can report about an item. -/
inductive Finding where
  /-- A generator class that could be inherited from. -/
  | notSealed (generator : String)
  /-- A generator class declared in parts. -/
  | partialDeclaration (generator : String)
  /-- A generator class without the suffix and without a name of its own. -/
  | invalidGeneratorName (className : String)
  /-- A required property whose position is no 32-bit integer. -/
  | invalidRequiredOrder (property order : String)
  /-- A property whose type parameters may not have. -/
  | disallowedParameterType (property typeText : String)
  /-- A global template that mentions more than the children's content. -/
  | invalidGlobalTemplate (member reason : String)
  /-- A required parameter that asks for a position already asked for. -/
  | duplicateRequiredOrder (parameter : String) (order : Int) (first : String)
  /-- A generator all of whose templates are empty. -/
  | emptyGenerator (generator : String)
  /-- A generator whose attribute an earlier one declares. -/
  | duplicateGenerator (attributeName generator first : String)
  /-- A required parameter without an argument. -/
  | missingRequiredArgument (attributeName target parameter : String)
  /-- More arguments than required parameters. -/
  | tooManyArguments (attributeName : String) (accepted supplied : Nat)
  /-- A generator applied to a target of another kind. -/
  | invalidUsageTarget (attributeName kind target : String)
  /-- A second usage on one target of a generator that allows one only. -/
  | multipleNotAllowed (attributeName target : String)
  /-- A named argument for which there is no parameter. -/
  | unknownNamedArgument (attributeName argument : String)
  /-- Several artifacts under one key. -/
  | duplicateArtifactKey (count : Nat) (key : String)
deriving DecidableEq, Repr

namespace Finding

/-- The code of a finding. -/
def code : Finding → DiagnosticCode
  | .notSealed _ => .notSealed
  | .partialDeclaration _ => .partialDeclaration
  | .invalidGeneratorName _ => .invalidGeneratorName
  | .invalidRequiredOrder _ _ => .invalidRequiredOrder
  | .disallowedParameterType _ _ => .disallowedParameterType
  | .invalidGlobalTemplate _ _ => .invalidGlobalTemplate
  | .duplicateRequiredOrder _ _ _ => .duplicateRequiredOrder
  | .emptyGenerator _ => .emptyGenerator
  | .duplicateGenerator _ _ _ => .duplicateGenerator
  | .missingRequiredArgument _ _ _ => .missingRequiredArgument
  | .tooManyArguments _ _ _ => .tooManyArguments
  | .invalidUsageTarget _ _ _ => .invalidUsageTarget
  | .multipleNotAllowed _ _ => .multipleNotAllowed
  | .unknownNamedArgument _ _ => .unknownNamedArgument
  | .duplicateArtifactKey _ _ => .duplicateArtifactKey

/-- The text shown for a finding. -/
def message : Finding → String
  | .notSealed generator => "generator '" ++ generator ++ "' must be sealed"
  | .partialDeclaration generator => "generator '" ++ generator ++ "' must not be declared partial"
  | .invalidGeneratorName className =>
    "generator '" ++ className ++ "' must end with 'Generator' or declare an explicit name"
  | .invalidRequiredOrder property order =>
    "required property '" ++ property ++ "' has order " ++ order ++
      ", which is not a 32-bit integer"
  | .disallowedParameterType property typeText =>
    "property '" ++ property ++ "' has type '" ++ typeText ++
      "', which cannot be a generator parameter"
  | .invalidGlobalTemplate member reason => "global template '" ++ member ++ "' " ++ reason
  | .duplicateRequiredOrder parameter order first =>
    "required parameter '" ++ parameter ++ "' repeats order " ++ toString order ++
      " already used by '" ++ first ++ "'"
  | .emptyGenerator generator =>
    "generator '" ++ generator ++ "' has no non-empty templates and produces nothing"
  | .duplicateGenerator attributeName generator first =>
    "'" ++ attributeName ++ "' from '" ++ generator ++ "' is already declared by '" ++ first ++
      "'; this declaration is ignored"
  | .missingRequiredArgument attributeName target parameter =>
    "'" ++ attributeName ++ "' on " ++ target ++ " is missing required argument '" ++
      parameter ++ "'"
  | .tooManyArguments attributeName accepted supplied =>
    "'" ++ attributeName ++ "' takes " ++ toString accepted ++ " positional argument(s) but " ++
      toString supplied ++ " were supplied"
  | .invalidUsageTarget attributeName kind target =>
    "'" ++ attributeName ++ "' is a " ++ kind ++ " generator and cannot be applied to " ++ target
  | .multipleNotAllowed attributeName target =>
    "'" ++ attributeName ++ "' may be applied to " ++ target ++ " only once"
  | .unknownNamedArgument attributeName argument =>
    "'" ++ attributeName ++ "' has no optional parameter named '" ++ argument ++
      "'; the argument is ignored"
  | .duplicateArtifactKey count key =>
    toString count ++ " artifacts would be written to '" ++ key ++ "'"

/-- The diagnostic of a finding at a location. -/
def located (finding : Finding) (location : Option String) : Diagnostic :=
  (Diagnostic.ofCode finding.code finding.message).located location

end Finding

end TemplateCodegen
