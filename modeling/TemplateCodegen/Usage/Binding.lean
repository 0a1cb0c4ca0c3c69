import TemplateCodegen.Usage.Basic

/-!
# Binding usages

A usage is bound to the first definition that its attribute names. The arguments by position fill
the required parameters in their order, those by name replace the defaults of optional parameters,
type arguments stand for the generic parameters, and facts about the target come last. A target of
the wrong kind and a wrong number of arguments refuse the usage.
-/

namespace TemplateCodegen

/-- The context value of an argument: a flag for `true` and `false` in any case under the type
`bool`, else the text itself. -/
def argumentValue (type : ParameterType) (text : String) : Value :=
  let folded := text.toList.map Char.toLower
  if type = .bool ∧ folded = "true".toList then .bool true
  else if type = .bool ∧ folded = "false".toList then .bool false
  else .text text

/-- Fill the required parameters with the arguments by position. -/
def insertRequired (context : Context) : List RequiredParameter → List String → Context
  | parameter :: parameters, argument :: arguments =>
    insertRequired (context.insert parameter.pascalName (argumentValue parameter.type argument))
      parameters arguments
  | _, _ => context

namespace OptionalParameter

/-- Whether a name is the declared or the Pascal name of the parameter. -/
def hasName (parameter : OptionalParameter) (name : String) : Bool :=
  parameter.name == name || parameter.pascalName == name

/-- The text for the parameter: the last argument by one of its names, or its default. -/
def argument (parameter : OptionalParameter) (arguments : List NamedArgument) : String :=
  match arguments.reverse.find? fun argument => parameter.hasName argument.name with
  | some argument => argument.value
  | none => Initializer.constant parameter.initializer

end OptionalParameter

/-- Fill the optional parameters with the arguments by name and the defaults. -/
def insertOptional (context : Context) (parameters : List OptionalParameter)
    (arguments : List NamedArgument) : Context :=
  parameters.foldl (fun context parameter =>
    context.insert parameter.pascalName
      (argumentValue parameter.type (parameter.argument arguments)))
    context

/-- Fill the generic parameters with the type arguments, when there are as many of these. -/
def insertGeneric (context : Context) (parameters : List GenericParameter)
    (generator : ClassIdentifier) : Context :=
  match generator.genericArguments with
  | .ok arguments =>
    if arguments.length = parameters.length then
      (parameters.zip arguments).foldl
        (fun context entry => context.insertText entry.1.name entry.2)
        context
    else context
  | .error _ => context

/-- The facts about a target: names of its class and, for a member, of the member. -/
def insertTarget (context : Context) : UsageTarget → Context
  | .onMember owner member =>
    ((insertOwner context owner).insertText "FieldName" member).insertText "FieldNamePascal"
      (Text.pascalMemberName member)
  | .onClass owner => insertOwner context owner
  | .onAssembly => context
where
  /-- The names of a class. -/
  insertOwner (context : Context) (owner : ClassIdentifier) : Context :=
    ((context.insertText "ClassName" owner.className).insertText "ClassNamespace"
      owner.namespaceName).insertText "ClassFullName" owner.fullName

/-- The context of a usage of a definition. -/
def usageContext (definition : Definition) (usage : Usage) : Context :=
  let context := insertRequired .empty definition.required usage.arguments
  let context := insertOptional context definition.optional usage.namedArguments
  let context := insertGeneric context definition.generic usage.generator
  insertTarget context usage.target

/-- The findings that refuse a usage of a definition. A target of the wrong kind hides the others.
-/
def usageErrors (definition : Definition) (usage : Usage) : List Finding :=
  let shown := definition.attributeClass.fullName
  if usage.target.accepts definition.kind then
    (if definition.required.length < usage.arguments.length then
        [.tooManyArguments shown definition.required.length usage.arguments.length]
      else []) ++
      (definition.required.drop usage.arguments.length).map fun parameter =>
        .missingRequiredArgument shown usage.target.shown parameter.name
  else [.invalidUsageTarget shown definition.kind.text usage.target.shown]

/-- The findings about arguments by name for which there is no parameter. -/
def usageWarnings (definition : Definition) (usage : Usage) : List Finding :=
  (usage.namedArguments.filter fun argument =>
    !definition.optional.any fun parameter => parameter.hasName argument.name).map fun argument =>
      .unknownNamedArgument definition.attributeClass.fullName argument.name

/-- Bind a usage to a definition. -/
def bindTo (definition : Definition) (usage : Usage) : Reported BoundUsage :=
  let located (findings : List Finding) :=
    findings.map fun finding => finding.located usage.location
  match usageErrors definition usage with
  | [] =>
    ⟨some ⟨definition, usage.target, usageContext definition usage, usage.location⟩,
      located (usageWarnings definition usage)⟩
  | errors => ⟨none, located errors⟩

/-- Bind a usage to the first definition that its attribute names; none when there is no such. -/
def bindUsage (definitions : List Definition) (usage : Usage) : Option (Reported BoundUsage) :=
  (definitions.find? fun definition => definition.isNamedBy usage.generator).map fun definition =>
    bindTo definition usage

/-- A usage is bound exactly when nothing refuses it. -/
theorem bindTo_value_isSome_iff (definition : Definition) (usage : Usage) :
    (bindTo definition usage).value.isSome = true ↔ usageErrors definition usage = [] := by
  unfold bindTo
  cases h : usageErrors definition usage <;> simp

/-- A bound usage has the definition, the target, the context and the place that it was bound with.
-/
theorem bindTo_value {definition : Definition} {usage : Usage} {bound : BoundUsage}
    (h : (bindTo definition usage).value = some bound) :
    bound = ⟨definition, usage.target, usageContext definition usage, usage.location⟩ := by
  unfold bindTo at h
  dsimp only at h
  split at h
  · exact (Option.some.inj h).symm
  · cases h

end TemplateCodegen
