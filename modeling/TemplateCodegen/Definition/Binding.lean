import TemplateCodegen.Config
import TemplateCodegen.Definition.Basic
import TemplateCodegen.Definition.GlobalTemplate
import TemplateCodegen.Incremental.Signal
import TemplateCodegen.Template.Parse

/-!
# Binding declarations

A declaration becomes a definition unless it breaks one of the rules for generator classes: they are
sealed, not partial, named after the suffix or by a name of their own, ask for positions that are
32-bit integers, and have only global templates that keep their restriction. A template that cannot
be read and a property of an unsuitable type are dropped and reported. All findings are returned
either way.
-/

namespace TemplateCodegen

open Incremental

namespace Declaration

/-- Whether the declaration brings an attribute name that is not blank. -/
def hasExplicitName (declaration : Declaration) : Bool :=
  match declaration.nameOverride with
  | some override => !Text.isBlankText override.name
  | none => false

/-- The findings about the class itself; all of them are reported. -/
def classFindings (declaration : Declaration) : List Finding :=
  let fullName := declaration.identifier.fullName
  (if declaration.isPartial then [Finding.partialDeclaration fullName] else []) ++
    (if declaration.isSealed then [] else [Finding.notSealed fullName]) ++
    (if declaration.hasExplicitName || declaration.identifier.hasGeneratorSuffix then []
      else [Finding.invalidGeneratorName declaration.identifier.className])

/-- The attribute class: derived from the class, unless a name of its own says otherwise, and put
into the override's or the configured namespace. -/
def attributeClass (declaration : Declaration) (config : Config) : ClassIdentifier :=
  match declaration.nameOverride with
  | none => declaration.identifier.attributeForGenerator.inNamespace config.attributeNamespace
  | some override =>
    let chosen := Text.trimmed (override.namespaceName.getD "")
    let namespaceName := if chosen = "" then config.attributeNamespace else chosen
    let name := Text.trimmed override.name
    if name = "" then declaration.identifier.attributeForGenerator.inNamespace namespaceName
    else ClassIdentifier.withAttributeSuffix ⟨namespaceName, name⟩

/-- The generic parameters: the listed ones, or else those in the class name. -/
def genericNames (declaration : Declaration) : List String :=
  if declaration.genericParameters = [] then
    match declaration.identifier.genericArguments with
    | .ok names => names
    | .error _ => []
  else declaration.genericParameters

end Declaration

/-- The position that a marker asks for: none, or a 32-bit integer; anything else is refused. -/
def requestedOrder? : Option LiteralArgument → Except LiteralArgument (Option Int32)
  | none => .ok none
  | some (.integer value) =>
    if Int32.minValue.toInt ≤ value ∧ value ≤ Int32.maxValue.toInt then
      .ok (some (Int32.ofInt value))
    else .error (.integer value)
  | some literal => .error literal

/-- What the properties of a declaration have given so far. -/
structure ParameterStage where
  /-- The required parameters. -/
  required : RequiredParameters := .empty
  /-- The optional parameters. -/
  optional : List OptionalParameter := []
  /-- The findings. -/
  diagnostics : List Diagnostic := []

namespace ParameterStage

/-- Add a finding. -/
def report (stage : ParameterStage) (diagnostic : Diagnostic) : ParameterStage :=
  { stage with diagnostics := stage.diagnostics ++ [diagnostic] }

/-- Take in one property. A property of an unsuitable type is dropped; one that asks for an unusable
position ends the binding with the findings made so far. -/
def addProperty (stage : ParameterStage) (property : Property) :
    Except (List Diagnostic) ParameterStage :=
  match ParameterType.ofTypeText? property.typeText property.typeKind with
  | none =>
    .ok (stage.report
      ((Finding.disallowedParameterType property.name property.typeText).located property.location))
  | some type =>
    match property.required with
    | none =>
      .ok { stage with
        optional := stage.optional ++
          [{ name := property.name, type, typeText := property.typeText
             initializer := property.initializer }] }
    | some marker =>
      match requestedOrder? marker.order with
      | .ok order =>
        .ok { stage with
          required := stage.required.add property.name order type property.typeText
            property.initializer property.location }
      | .error literal =>
        .error (stage.report
          ((Finding.invalidRequiredOrder property.name literal.shown).located
            property.location)).diagnostics

end ParameterStage

/-- What the members of a declaration have given so far. -/
structure TemplateStage where
  /-- The templates that could be read. -/
  templates : TemplateSet := {}
  /-- The findings. -/
  diagnostics : List Diagnostic := []
  /-- Whether a global template breaks its restriction. -/
  isRejected : Bool := false

/-- Read a template of a member; the findings name the template as given. -/
def readTemplate (member : Member) (name text : String) : Reported Template :=
  match Template.parse text with
  | .ok template => ⟨some template, []⟩
  | .error faults => ⟨none, faults.map fun fault => fault.toDiagnostic name text member.location⟩

namespace TemplateStage

/-- The stage with what one more member gives. -/
def append (one other : TemplateStage) : TemplateStage :=
  { templates := one.templates.append other.templates
    diagnostics := one.diagnostics ++ other.diagnostics
    isRejected := one.isRejected || other.isRejected }

/-- What the inline template of a member gives. -/
def ofInline (member : Member) (text : String) : TemplateStage :=
  let read := readTemplate member member.name text
  { templates := { inline := read.value.toList.map fun body => ⟨member.name, body⟩ }
    diagnostics := read.diagnostics }

/-- What the file template of a member gives; a blank name pattern gives way to the member's name.
-/
def ofFile (member : Member) (text pattern : String) : TemplateStage :=
  let body := readTemplate member member.name text
  let fileName := readTemplate member (member.name ++ ".file_name")
    (if Text.isBlankText pattern then member.name else pattern)
  { templates :=
      { file :=
          match body.value, fileName.value with
          | some body, some fileName => [⟨member.name, fileName, body⟩]
          | _, _ => [] }
    diagnostics := body.diagnostics ++ fileName.diagnostics }

/-- What the global file template of a member gives; a blank file name gives way to the generator's.
-/
def ofGlobalFile (member : Member) (text generatorName fileName : String) : TemplateStage :=
  let read := readTemplate member member.name text
  match read.value with
  | none => { diagnostics := read.diagnostics }
  | some body =>
    match globalViolation? body with
    | none =>
      { templates :=
          { globalFile :=
              [⟨member.name, generatorName,
                if Text.isBlankText fileName then generatorName else fileName, body⟩] } }
    | some violation =>
      { diagnostics :=
          [(Finding.invalidGlobalTemplate member.name violation.message).located member.location]
        isRejected := true }

/-- What the global child template of a member gives. -/
def ofGlobalChild (member : Member) (text generatorName : String) : TemplateStage :=
  let read := readTemplate member member.name text
  { templates :=
      { globalChild := read.value.toList.map fun body => ⟨member.name, generatorName, body⟩ }
    diagnostics := read.diagnostics }

/-- What a member gives: nothing without a constant text or a marker. -/
def ofMember (member : Member) : TemplateStage :=
  match member.constantText, member.markers with
  | some text, .template :: _ => ofInline member text
  | some text, .fileTemplate fileName :: _ => ofFile member text fileName
  | some text, .globalFileTemplate generatorName fileName :: _ =>
    ofGlobalFile member text generatorName fileName
  | some text, .globalChildTemplate generatorName :: _ => ofGlobalChild member text generatorName
  | _, _ => {}

/-- Take in one member; members never end the binding by themselves. -/
def addMember (stage : TemplateStage) (member : Member) : Except Empty TemplateStage :=
  .ok (stage.append (ofMember member))

end TemplateStage

/-- The result of a declaration whose properties and members have been taken in. -/
def finishBinding (declaration : Declaration) (config : Config) (parameters : ParameterStage)
    (members : TemplateStage) : Reported Definition :=
  let (required, warnings) := parameters.required.finish
  let diagnostics := parameters.diagnostics ++ warnings ++ members.diagnostics
  if members.isRejected then ⟨none, diagnostics⟩
  else
    let definition : Definition :=
      { identifier := declaration.identifier
        attributeClass := declaration.attributeClass config
        kind := declaration.kind
        allowMultiple := (declaration.nameOverride.map NameOverride.allowMultiple).getD false
        required
        optional := parameters.optional
        generic := declaration.genericNames.map GenericParameter.mk
        templates := members.templates
        location := declaration.location }
    let warning :=
      if definition.hasContent then []
      else [(Finding.emptyGenerator declaration.identifier.fullName).located declaration.location]
    ⟨some definition, diagnostics ++ warning⟩

/-- Bind a declaration, polling before it and in front of every property and every member. -/
def bindDefinitionWith {m : Type → Type} [Monad m] (poll : m Unit) (declaration : Declaration)
    (config : Config) : m (Reported Definition) := do
  poll
  match declaration.classFindings with
  | [] =>
    match ← foldPolled poll ParameterStage.addProperty declaration.properties {} with
    | .error diagnostics => pure ⟨none, diagnostics⟩
    | .ok parameters =>
      match ← foldPolled poll TemplateStage.addMember declaration.members {} with
      | .error refusal => nomatch refusal
      | .ok members => pure (finishBinding declaration config parameters members)
  | findings => pure ⟨none, findings.map fun finding => finding.located declaration.location⟩

/-- Bind a declaration. -/
def bindDefinition (declaration : Declaration) (config : Config) : Reported Definition :=
  Id.run (bindDefinitionWith (pure ()) declaration config)

/-- Binding without polls, as one walk over the properties and one over the members. -/
theorem bindDefinition_eq (declaration : Declaration) (config : Config) :
    bindDefinition declaration config =
      match declaration.classFindings with
      | [] =>
        match declaration.properties.foldlM ParameterStage.addProperty {} with
        | .error diagnostics => ⟨none, diagnostics⟩
        | .ok parameters =>
          match declaration.members.foldlM TemplateStage.addMember {} with
          | .error refusal => nomatch refusal
          | .ok members => finishBinding declaration config parameters members
      | findings => ⟨none, findings.map fun finding => finding.located declaration.location⟩ := by
  rw [← foldPolled_id, ← foldPolled_id]
  unfold bindDefinition bindDefinitionWith
  cases declaration.classFindings with
  | nil => rfl
  | cons finding findings => rfl

/-- A definition comes from a declaration whose class nothing is wrong with, and from what its
properties and its members give. -/
theorem exists_of_bindDefinition {declaration : Declaration} {config : Config}
    {definition : Definition} (h : (bindDefinition declaration config).value = some definition) :
    declaration.classFindings = [] ∧ ∃ parameters members,
      declaration.properties.foldlM ParameterStage.addProperty {} = .ok parameters ∧
      declaration.members.foldlM TemplateStage.addMember {} = .ok members ∧
      (finishBinding declaration config parameters members).value = some definition := by
  rw [bindDefinition_eq] at h
  cases hfindings : declaration.classFindings with
  | cons finding findings =>
    rw [hfindings] at h
    cases h
  | nil =>
    rw [hfindings] at h
    dsimp only at h
    cases hproperties : declaration.properties.foldlM ParameterStage.addProperty {} with
    | error diagnostics =>
      rw [hproperties] at h
      cases h
    | ok parameters =>
      rw [hproperties] at h
      dsimp only at h
      cases hmembers : declaration.members.foldlM TemplateStage.addMember {} with
      | error refusal => exact nomatch refusal
      | ok members =>
        rw [hmembers] at h
        exact ⟨rfl, parameters, members, rfl, rfl, h⟩

/-- A definition has the identifier of its declaration, the attribute class derived from it, its
generic parameters, and the parameters that its properties gave, the required ones in order. -/
theorem finishBinding_value {declaration : Declaration} {config : Config}
    {parameters : ParameterStage} {members : TemplateStage} {definition : Definition}
    (h : (finishBinding declaration config parameters members).value = some definition) :
    definition.identifier = declaration.identifier ∧
      definition.attributeClass = declaration.attributeClass config ∧
      definition.generic = declaration.genericNames.map GenericParameter.mk ∧
      definition.required = parameters.required.finish.1 ∧
      definition.optional = parameters.optional := by
  unfold finishBinding at h
  dsimp only at h
  split at h
  · cases h
  · cases h
    exact ⟨rfl, rfl, rfl, rfl, rfl⟩

/-- A definition has the identifier of its declaration, the attribute class derived from it, and its
generic parameters. -/
theorem bindDefinition_value {declaration : Declaration} {config : Config}
    {definition : Definition} (h : (bindDefinition declaration config).value = some definition) :
    definition.identifier = declaration.identifier ∧
      definition.attributeClass = declaration.attributeClass config ∧
      definition.generic = declaration.genericNames.map GenericParameter.mk := by
  obtain ⟨-, parameters, members, -, -, hfinish⟩ := exists_of_bindDefinition h
  obtain ⟨hidentifier, hattribute, hgeneric, -⟩ := finishBinding_value hfinish
  exact ⟨hidentifier, hattribute, hgeneric⟩

/-- A binding that is not cancelled gives what binding without polls gives. -/
theorem bindDefinitionWith_poll_ok {declaration : Declaration} {config : Config}
    {result : Reported Definition} {signal signal' : Signal}
    (h : bindDefinitionWith Run.poll declaration config signal = .ok result signal') :
    result = bindDefinition declaration config := by
  rw [bindDefinition_eq]
  unfold bindDefinitionWith at h
  simp only [bind, EStateM.bind] at h
  cases hpoll : Run.poll signal with
  | error error after =>
    rw [hpoll] at h
    cases h
  | ok _ after =>
    rw [hpoll] at h
    dsimp only at h
    cases hfindings : declaration.classFindings with
    | cons finding findings =>
      rw [hfindings] at h
      cases h
      rfl
    | nil =>
      rw [hfindings] at h
      simp only [EStateM.bind] at h
      cases hwalk :
          foldPolled Run.poll ParameterStage.addProperty declaration.properties {} after with
      | error error after' =>
        rw [hwalk] at h
        cases h
      | ok parameters after' =>
        rw [hwalk] at h
        dsimp only at h ⊢
        rw [← foldPolled_poll_ok hwalk]
        cases parameters with
        | error diagnostics =>
          cases h
          rfl
        | ok parameters =>
          simp only [EStateM.bind] at h
          cases hwalk' :
              foldPolled Run.poll TemplateStage.addMember declaration.members {} after' with
          | error error after'' =>
            rw [hwalk'] at h
            cases h
          | ok members after'' =>
            rw [hwalk'] at h
            dsimp only at h ⊢
            rw [← foldPolled_poll_ok hwalk']
            cases members with
            | error refusal => exact nomatch refusal
            | ok members =>
              cases h
              rfl

end TemplateCodegen
