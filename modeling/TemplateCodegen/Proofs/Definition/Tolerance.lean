import TemplateCodegen.Definition.Binding
import TemplateCodegen.Proofs.Incremental.Polling
import TemplateCodegen.Proofs.Parameter.Repeats

/-!
# Mistakes that a declaration outlives

A property of an unsuitable type and a member whose template cannot be read are reported and
dropped; the rest of the declaration is bound as if they were not there. Main statement: the
declaration without them is bound to the same definition, or refused as well, and the diagnostics
are those of the whole declaration less the ones about what is dropped, in the same order
(`bindDefinition_pruned`).
-/

namespace TemplateCodegen

open Incremental

/-! ### What is dropped -/

/-- Whether a mistake of this code costs a declaration no more than the property or the member that
makes it. -/
def DiagnosticCode.isTolerated : DiagnosticCode → Bool
  | .unclosedSection | .unmatchedClose | .mismatchedClose | .emptyIdentifier | .malformedTag => true
  | .disallowedParameterType => true
  | _ => false

/-- The tolerated codes are those of templates and that of unsuitable types. -/
theorem DiagnosticCode.isTolerated_iff (code : DiagnosticCode) :
    code.isTolerated = true ↔ "GB10".toList <+: code.text.toList ∨ code.text = "GB2005" := by
  cases code <;> decide +kernel

/-- The diagnostics but those of tolerated mistakes. -/
def withoutTolerated (diagnostics : List Diagnostic) : List Diagnostic :=
  diagnostics.filter fun diagnostic => !diagnostic.code.isTolerated

/-- Whether parameters may have the type of the property. -/
def Property.isAllowed (property : Property) : Bool :=
  (ParameterType.ofTypeText? property.typeText property.typeKind).isSome

/-- Whether the text is one of a template. -/
def Template.isReadable (text : String) : Bool := (Template.parse text).isOk

namespace Member

/-- The template of the name of a member's file: the one in the marker, or else the member's name.
-/
def fileNamePattern (member : Member) (pattern : String) : String :=
  if Text.isBlankText pattern then member.name else pattern

/-- Whether what the member is a template for can be read; a member that is no template can. -/
def isReadable (member : Member) : Bool :=
  match member.constantText, member.markers with
  | some text, .fileTemplate pattern :: _ =>
    Template.isReadable text && Template.isReadable (member.fileNamePattern pattern)
  | some text, _ :: _ => Template.isReadable text
  | _, _ => true

end Member

/-- The declaration without the properties of unsuitable types and the members that cannot be read.
-/
def Declaration.pruned (declaration : Declaration) : Declaration :=
  { declaration with
    properties := declaration.properties.filter Property.isAllowed
    members := declaration.members.filter Member.isReadable }

/-! ### Diagnostics -/

section Diagnostics

variable {diagnostics : List Diagnostic}

/-- Diagnostics put together lose what each of the parts loses. -/
theorem withoutTolerated_append (one other : List Diagnostic) :
    withoutTolerated (one ++ other) = withoutTolerated one ++ withoutTolerated other :=
  List.filter_append ..

/-- Where no mistake is tolerated all diagnostics stay. -/
theorem withoutTolerated_eq_self (h : ∀ one ∈ diagnostics, one.code.isTolerated = false) :
    withoutTolerated diagnostics = diagnostics :=
  List.filter_eq_self.2 fun one hone => by rw [h one hone]; rfl

/-- Where every mistake is tolerated nothing stays. -/
theorem withoutTolerated_eq_nil (h : ∀ one ∈ diagnostics, one.code.isTolerated = true) :
    withoutTolerated diagnostics = [] :=
  List.filter_eq_nil_iff.2 fun one hone => by rw [h one hone]; exact Bool.false_ne_true

end Diagnostics

/-- The faults of a template are tolerated. -/
theorem Template.FaultCause.isTolerated_code (cause : FaultCause) :
    cause.code.isTolerated = true := by
  cases cause <;> rfl

/-! ### Properties -/

namespace ParameterStage

/-- The stage with no word about what was dropped. -/
def withoutTolerated (stage : ParameterStage) : ParameterStage :=
  { stage with diagnostics := TemplateCodegen.withoutTolerated stage.diagnostics }

/-- Taking in a property of an unsuitable type is no more than a word about it. -/
theorem addProperty_of_not_isAllowed (stage : ParameterStage) {property : Property}
    (h : ¬ property.isAllowed = true) :
    ∃ next, addProperty stage property = .ok next ∧
      next.withoutTolerated = stage.withoutTolerated := by
  have hnone : ParameterType.ofTypeText? property.typeText property.typeKind = none :=
    Option.not_isSome_iff_eq_none.1 h
  have hword : TemplateCodegen.withoutTolerated
      [(Finding.disallowedParameterType property.name property.typeText).located
        property.location] = [] := rfl
  unfold addProperty
  rw [hnone]
  refine ⟨_, rfl, ?_⟩
  rw [withoutTolerated, withoutTolerated, report, withoutTolerated_append, hword, List.append_nil]

/-- Taking in any other property does not depend on what was dropped before. -/
theorem addProperty_withoutTolerated (stage : ParameterStage) {property : Property}
    (h : property.isAllowed = true) :
    addProperty stage.withoutTolerated property =
      ((addProperty stage property).map withoutTolerated).mapError
        TemplateCodegen.withoutTolerated := by
  obtain ⟨type, htype⟩ := Option.isSome_iff_exists.1 h
  unfold addProperty
  rw [htype]
  dsimp only
  cases property.required with
  | none => rfl
  | some marker =>
    dsimp only
    cases requestedOrder? marker.order with
    | ok order => rfl
    | error literal =>
      have hsplit := withoutTolerated_append stage.diagnostics
        [(Finding.invalidRequiredOrder property.name literal.shown).located property.location]
      exact congrArg Except.error hsplit.symm

/-- The walk over the properties that stay is the walk over all of them, less what is said about the
others; it is given up where that is given up. -/
theorem foldlM_filter_isAllowed (properties : List Property) (stage : ParameterStage) :
    (properties.filter Property.isAllowed).foldlM addProperty stage.withoutTolerated =
      ((properties.foldlM addProperty stage).map withoutTolerated).mapError
        TemplateCodegen.withoutTolerated := by
  induction properties generalizing stage with
  | nil => rfl
  | cons property rest ih =>
    by_cases hallowed : property.isAllowed = true
    · rw [List.filter_cons_of_pos hallowed, List.foldlM_cons, List.foldlM_cons,
        addProperty_withoutTolerated stage hallowed]
      cases addProperty stage property with
      | ok next => exact ih next
      | error diagnostics => rfl
    · obtain ⟨next, hnext, hsame⟩ := addProperty_of_not_isAllowed stage hallowed
      rw [List.filter_cons_of_neg hallowed, List.foldlM_cons, hnext, ← hsame]
      exact ih next

end ParameterStage

/-! ### Members -/

/-- A template that can be read is read without a word. -/
theorem exists_readTemplate {text : String} (h : Template.isReadable text = true)
    (member : Member) (name : String) :
    ∃ template, readTemplate member name text = ⟨some template, []⟩ := by
  unfold readTemplate
  unfold Template.isReadable at h
  cases hparse : Template.parse text with
  | ok template => exact ⟨template, rfl⟩
  | error faults =>
    rw [hparse] at h
    cases h

/-- Reading a template reports mistakes of templates only. -/
theorem exists_cause_of_mem_readTemplate {member : Member} {name text : String}
    {diagnostic : Diagnostic} (h : diagnostic ∈ (readTemplate member name text).diagnostics) :
    ∃ cause : Template.FaultCause, diagnostic.code = cause.code := by
  unfold readTemplate at h
  cases hparse : Template.parse text with
  | ok template =>
    rw [hparse] at h
    cases h
  | error faults =>
    rw [hparse] at h
    obtain ⟨fault, -, rfl⟩ := List.mem_map.1 h
    exact ⟨fault.cause, rfl⟩

/-- Reading a template says nothing but tolerated mistakes. -/
theorem withoutTolerated_readTemplate (member : Member) (name text : String) :
    withoutTolerated (readTemplate member name text).diagnostics = [] := by
  refine withoutTolerated_eq_nil fun diagnostic hmem => ?_
  obtain ⟨cause, hcode⟩ := exists_cause_of_mem_readTemplate hmem
  rw [hcode]
  exact cause.isTolerated_code

/-- A template that cannot be read has no value. -/
theorem readTemplate_value_eq_none {text : String} (h : ¬ Template.isReadable text = true)
    (member : Member) (name : String) : (readTemplate member name text).value = none := by
  unfold readTemplate
  unfold Template.isReadable at h
  cases hparse : Template.parse text with
  | ok template =>
    rw [hparse] at h
    exact absurd rfl h
  | error faults => rfl

namespace TemplateStage

/-- The stage with no word about what was dropped. -/
def withoutTolerated (stage : TemplateStage) : TemplateStage :=
  { stage with diagnostics := TemplateCodegen.withoutTolerated stage.diagnostics }

/-- A stage to which nothing is added stays as it is. -/
theorem append_empty (stage : TemplateStage) : stage.append {} = stage := by
  simp [append, TemplateSet.append]

/-- What two parts give loses what each of them loses. -/
theorem withoutTolerated_append (one other : TemplateStage) :
    (one.append other).withoutTolerated = one.withoutTolerated.append other.withoutTolerated := by
  simp only [append, withoutTolerated, TemplateCodegen.withoutTolerated_append]

/-- A member that can be read gives nothing that is tolerated. -/
theorem ofMember_of_isReadable {member : Member} (h : member.isReadable = true) :
    (ofMember member).withoutTolerated = ofMember member := by
  unfold Member.isReadable at h
  unfold ofMember
  generalize member.constantText = constant, member.markers = markers at h ⊢
  rcases constant with _ | text
  · rfl
  rcases markers with _ | ⟨marker, _⟩
  · rfl
  cases marker with
  | template =>
    obtain ⟨body, hbody⟩ := exists_readTemplate h member member.name
    simp only [ofInline, hbody]
    rfl
  | fileTemplate pattern =>
    obtain ⟨htext, hpattern⟩ := Bool.and_eq_true_iff.1 h
    obtain ⟨body, hbody⟩ := exists_readTemplate htext member member.name
    obtain ⟨fileName, hfileName⟩ :=
      exists_readTemplate hpattern member (member.name ++ ".file_name")
    rw [Member.fileNamePattern] at hfileName
    simp only [ofFile, hbody, hfileName]
    rfl
  | globalFileTemplate generatorName fileName =>
    obtain ⟨body, hbody⟩ := exists_readTemplate h member member.name
    simp only [ofGlobalFile, hbody]
    cases globalViolation? body <;> rfl
  | globalChildTemplate generatorName =>
    obtain ⟨body, hbody⟩ := exists_readTemplate h member member.name
    simp only [ofGlobalChild, hbody]
    rfl

/-- A member that cannot be read gives nothing but what is tolerated. -/
theorem ofMember_of_not_isReadable {member : Member} (h : ¬ member.isReadable = true) :
    (ofMember member).withoutTolerated = {} := by
  have hsilent := withoutTolerated_readTemplate member
  unfold Member.isReadable at h
  unfold ofMember
  generalize member.constantText = constant, member.markers = markers at h ⊢
  rcases constant with _ | text
  · exact absurd rfl h
  rcases markers with _ | ⟨marker, _⟩
  · exact absurd rfl h
  cases marker with
  | template =>
    simp only [ofInline, readTemplate_value_eq_none h, withoutTolerated, hsilent]
    rfl
  | fileTemplate pattern =>
    have hone : ¬ Template.isReadable text = true ∨
        ¬ Template.isReadable (member.fileNamePattern pattern) = true :=
      not_and_or.1 fun hboth => h (Bool.and_eq_true_iff.2 hboth)
    simp only [ofFile, withoutTolerated, TemplateCodegen.withoutTolerated_append, hsilent]
    rcases hone with htext | hpattern
    · rw [readTemplate_value_eq_none htext]
      rfl
    · rw [← Member.fileNamePattern, readTemplate_value_eq_none hpattern]
      cases (readTemplate member member.name text).value <;> rfl
  | globalFileTemplate generatorName fileName =>
    simp only [ofGlobalFile, readTemplate_value_eq_none h, withoutTolerated, hsilent]
  | globalChildTemplate generatorName =>
    simp only [ofGlobalChild, readTemplate_value_eq_none h, withoutTolerated, hsilent]
    rfl

/-- The walk over the members that stay is the walk over all of them, less what is said about the
others. -/
theorem foldlM_filter_isReadable (members : List Member) (stage : TemplateStage) :
    (members.filter Member.isReadable).foldlM addMember stage.withoutTolerated =
      (members.foldlM addMember stage).map withoutTolerated := by
  induction members generalizing stage with
  | nil => rfl
  | cons member rest ih =>
    have hrest := ih (stage.append (ofMember member))
    rw [withoutTolerated_append] at hrest
    by_cases hreadable : member.isReadable = true
    · rw [ofMember_of_isReadable hreadable] at hrest
      rw [List.filter_cons_of_pos hreadable]
      exact hrest
    · rw [ofMember_of_not_isReadable hreadable, append_empty] at hrest
      rw [List.filter_cons_of_neg hreadable]
      exact hrest

end TemplateStage

/-! ### Bindings -/

/-- The result less the diagnostics of tolerated mistakes. -/
def Reported.withoutTolerated {α : Type} (reported : Reported α) : Reported α :=
  ⟨reported.value, TemplateCodegen.withoutTolerated reported.diagnostics⟩

/-- That a position is asked for twice is not tolerated. -/
theorem RequiredParameters.isTolerated_repeatWarnings
    (earlier parameters : List RequiredParameter) :
    ∀ warning ∈ repeatWarnings earlier parameters, warning.code.isTolerated = false := by
  intro warning hwarning
  rw [code_of_mem_repeatWarnings hwarning]
  rfl

/-- What is found about the class itself is not tolerated. -/
theorem Declaration.isTolerated_classFindings (declaration : Declaration) :
    ∀ finding ∈ declaration.classFindings, finding.code.isTolerated = false := by
  intro finding hfinding
  simp only [classFindings, List.mem_append, List.mem_ite_nil_left, List.mem_ite_nil_right,
    List.mem_singleton] at hfinding
  rcases hfinding with (⟨-, rfl⟩ | ⟨-, rfl⟩) | ⟨-, rfl⟩ <;> rfl

/-- The end of the binding does not depend on what was dropped. -/
theorem finishBinding_pruned (declaration : Declaration) (config : Config)
    (parameters : ParameterStage) (members : TemplateStage) :
    finishBinding declaration.pruned config parameters.withoutTolerated members.withoutTolerated =
      (finishBinding declaration config parameters members).withoutTolerated := by
  have hwarnings : withoutTolerated parameters.required.finish.2 = parameters.required.finish.2 :=
    withoutTolerated_eq_self (RequiredParameters.isTolerated_repeatWarnings [] _)
  have hfound : withoutTolerated
      (parameters.diagnostics ++ parameters.required.finish.2 ++ members.diagnostics) =
      parameters.withoutTolerated.diagnostics ++ parameters.required.finish.2 ++
        members.withoutTolerated.diagnostics := by
    rw [withoutTolerated_append, withoutTolerated_append, hwarnings]
    rfl
  have hwarning : ∀ hasContent : Bool, withoutTolerated (if hasContent then [] else
      [(Finding.emptyGenerator declaration.identifier.fullName).located declaration.location]) =
      if hasContent then [] else
        [(Finding.emptyGenerator declaration.identifier.fullName).located
          declaration.location] := by
    intro hasContent
    cases hasContent <;> rfl
  rcases members with ⟨templates, diagnostics, _ | _⟩
  · have hdiagnostics := (withoutTolerated_append _ _).trans
      (congrArg₂ (· ++ ·) hfound (hwarning templates.hasContent))
    exact congrArg (Reported.mk (some _)) hdiagnostics.symm
  · exact congrArg (Reported.mk none) hfound.symm

/-- Without what is dropped, the binding of a declaration is the same but for the diagnostics of
tolerated mistakes. -/
theorem bindDefinition_pruned_eq (declaration : Declaration) (config : Config) :
    bindDefinition declaration.pruned config =
      (bindDefinition declaration config).withoutTolerated := by
  have hproperties : declaration.pruned.properties.foldlM ParameterStage.addProperty {} =
      ((declaration.properties.foldlM ParameterStage.addProperty {}).map
        ParameterStage.withoutTolerated).mapError withoutTolerated :=
    ParameterStage.foldlM_filter_isAllowed declaration.properties {}
  have hmembers : declaration.pruned.members.foldlM TemplateStage.addMember {} =
      (declaration.members.foldlM TemplateStage.addMember {}).map
        TemplateStage.withoutTolerated :=
    TemplateStage.foldlM_filter_isReadable declaration.members {}
  rw [bindDefinition_eq, bindDefinition_eq]
  have hfindings : declaration.pruned.classFindings = declaration.classFindings := rfl
  rw [hfindings]
  cases hclass : declaration.classFindings with
  | cons finding findings =>
    have hkept : withoutTolerated ((finding :: findings).map fun one =>
        one.located declaration.location) =
        (finding :: findings).map fun one => one.located declaration.location := by
      refine withoutTolerated_eq_self fun diagnostic hmem => ?_
      obtain ⟨one, hone, rfl⟩ := List.mem_map.1 hmem
      exact declaration.isTolerated_classFindings one (hclass ▸ hone)
    exact congrArg (Reported.mk none) hkept.symm
  | nil =>
    rw [hproperties, hmembers]
    cases declaration.properties.foldlM ParameterStage.addProperty {} with
    | error diagnostics => rfl
    | ok parameters =>
      cases declaration.members.foldlM TemplateStage.addMember {} with
      | error refusal => exact refusal.elim
      | ok members => exact finishBinding_pruned declaration config parameters members

/-! ### Polls -/

/-- The binding polls some number of times and gives what binding without polls gives. -/
theorem bindDefinitionWith_polls (declaration : Declaration) (config : Config) :
    ∃ polls, (bindDefinitionWith Run.poll declaration config).Polls polls
      (bindDefinition declaration config) := by
  obtain ⟨first, hfirst⟩ :=
    Run.Polls.foldPolled ParameterStage.addProperty declaration.properties {}
  obtain ⟨second, hsecond⟩ := Run.Polls.foldPolled TemplateStage.addMember declaration.members {}
  rw [bindDefinition_eq]
  unfold bindDefinitionWith
  cases declaration.classFindings with
  | cons finding findings => exact ⟨1 + 0, Run.Polls.poll.bind (.pure _)⟩
  | nil =>
    cases hproperties : declaration.properties.foldlM ParameterStage.addProperty {} with
    | error diagnostics =>
      rw [hproperties] at hfirst
      exact ⟨1 + (first + 0), Run.Polls.poll.bind (hfirst.bind (.pure _))⟩
    | ok parameters =>
      rw [hproperties] at hfirst
      cases hmembers : declaration.members.foldlM TemplateStage.addMember {} with
      | error refusal => exact refusal.elim
      | ok members =>
        rw [hmembers] at hsecond
        exact ⟨1 + (first + (second + 0)),
          Run.Polls.poll.bind (hfirst.bind (hsecond.bind (.pure _)))⟩

/-- A binding that nobody stops comes to its end. -/
theorem outcome_bindDefinitionWith (declaration : Declaration) (config : Config) {token : Token}
    (hnever : token.NeverCancels) (spent : List Nat) :
    (bindDefinitionWith Run.poll declaration config).outcome ⟨token, spent⟩ =
      .ok (bindDefinition declaration config) := by
  obtain ⟨polls, hpolls⟩ := bindDefinitionWith_polls declaration config
  have hend := hpolls token spent
  obtain ⟨next, hnext⟩ := Option.isSome_iff_exists.1 (hnever polls)
  rw [hnext] at hend
  unfold Run.outcome
  rw [hend]

/-- Where nobody stops it, a declaration without its properties of unsuitable types and its members
that cannot be read is bound to what the whole declaration is bound to, or refused as that is, and
the diagnostics are those of the whole one, less the tolerated ones. -/
theorem bindDefinition_pruned (declaration : Declaration) (config : Config) {token : Token}
    (hnever : token.NeverCancels) (spent : List Nat) :
    ∃ result : Reported Definition,
      (bindDefinitionWith Run.poll declaration config).outcome ⟨token, spent⟩ = .ok result ∧
      (bindDefinitionWith Run.poll declaration.pruned config).outcome ⟨token, spent⟩ =
        .ok ⟨result.value, result.diagnostics.filter fun diagnostic =>
          !diagnostic.code.isTolerated⟩ := by
  have hwhole := outcome_bindDefinitionWith declaration config hnever spent
  have hpruned := outcome_bindDefinitionWith declaration.pruned config hnever spent
  rw [bindDefinition_pruned_eq] at hpruned
  exact ⟨bindDefinition declaration config, hwhole, hpruned⟩

/-- A declaration that asks twice for one position, with a property of an unsuitable type, a
template that does not end its section and a file whose name cannot be read. -/
def careless : Declaration :=
  { identifier := ⟨"Acme", "LetterGenerator"⟩
    kind := .onField
    properties :=
      [(Property.ofType "to" "string").require (some (.integer 1)),
        .ofType "when" "DateTime",
        (Property.ofType "from" "string").require (some (.integer 1))]
    members :=
      [.ofTemplate "Salutation" .template "\x7b\x7b#To\x7d\x7dDear",
        .ofTemplate "Body" .template "Thank you.",
        .ofTemplate "Copy" (.fileTemplate "\x7b\x7b To") "Copy"] }

/-- The careless declaration is bound with four diagnostics, and without what is dropped it is bound
to the same definition with the one about the position. -/
theorem careless_pruned :
    (careless.pruned.properties.map Property.name, careless.pruned.members.map Member.name) =
      (["to", "from"], ["Body"]) ∧
    ∃ result : Reported Definition,
      (bindDefinitionWith Run.poll careless {}).outcome ⟨.fresh, []⟩ = .ok result ∧
      (bindDefinitionWith Run.poll careless.pruned {}).outcome ⟨.fresh, []⟩ =
        .ok ⟨result.value, result.diagnostics.filter fun diagnostic =>
          !diagnostic.code.isTolerated⟩ ∧
      result.value.isSome = true ∧
      result.diagnostics.map Diagnostic.code = [.disallowedParameterType, .duplicateRequiredOrder,
        .unclosedSection, .malformedTag] := by
  have hnever := (Token.neverCancels_iff .fresh).2 (.inr rfl)
  obtain ⟨result, hwhole, hpruned⟩ := bindDefinition_pruned careless {} hnever []
  have hresult := hwhole.symm.trans (outcome_bindDefinitionWith careless {} hnever [])
  obtain rfl := Except.ok.inj hresult
  exact ⟨by decide +kernel, _, hwhole, hpruned, by decide +kernel, by decide +kernel⟩

end TemplateCodegen
