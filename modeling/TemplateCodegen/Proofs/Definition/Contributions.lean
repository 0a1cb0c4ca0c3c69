import Mathlib.Data.List.Forall2
import TemplateCodegen.Proofs.Definition.Tolerance

/-!
# What becomes of properties and members

Binding goes through the properties and then through the members of a declaration. Every property
becomes a parameter or is reported as unsuitable, and every member gives a template, findings about
its texts, or nothing; no element is looked at twice. Main statement: a definition and its
diagnostics are made up of what becomes of the properties and members of its declaration, one by one
(`bindDefinition_accounts`).
-/

namespace TemplateCodegen

open Incremental

/-! ### Properties -/

/-- What becomes of a property. -/
inductive PropertyFate where
  /-- A parameter filled by position. -/
  | required (parameter : RequiredParameter)
  /-- A parameter filled by name. -/
  | optional (parameter : OptionalParameter)
  /-- No parameter but a diagnostic about its type. -/
  | unsuitable (diagnostic : Diagnostic)

namespace PropertyFate

/-- The required parameter, when it became one. -/
def required? : PropertyFate → Option RequiredParameter
  | .required parameter => some parameter
  | .optional _ | .unsuitable _ => none

/-- The optional parameter, when it became one. -/
def optional? : PropertyFate → Option OptionalParameter
  | .optional parameter => some parameter
  | .required _ | .unsuitable _ => none

/-- The diagnostic, when it is unsuitable. -/
def unsuitable? : PropertyFate → Option Diagnostic
  | .unsuitable diagnostic => some diagnostic
  | .required _ | .optional _ => none

end PropertyFate

/-- What a property becomes: its type and its marker decide. The place among the required parameters
is not told by the property alone. -/
inductive Property.Becomes (property : Property) : PropertyFate → Prop where
  /-- A marked property of a suitable type is required, at exactly the position asked for. -/
  | required {type : ParameterType} {marker : RequiredMarker} (order : Option Int32) (place : Nat)
      (htype : ParameterType.ofTypeText? property.typeText property.typeKind = some type)
      (hmarked : property.required = some marker)
      (horder : marker.order = order.map fun value => .integer value.toInt) :
      Becomes property (.required
        { requestedOrder := order, declaredOrder := place, name := property.name, type
          typeText := property.typeText, initializer := property.initializer
          location := property.location })
  /-- A property of a suitable type without a marker is optional. -/
  | optional {type : ParameterType}
      (htype : ParameterType.ofTypeText? property.typeText property.typeKind = some type)
      (hunmarked : property.required = none) :
      Becomes property (.optional
        { name := property.name, type, typeText := property.typeText
          initializer := property.initializer })
  /-- A property of any other type is reported. -/
  | unsuitable (htype : ParameterType.ofTypeText? property.typeText property.typeKind = none) :
      Becomes property (.unsuitable
        ((Finding.disallowedParameterType property.name property.typeText).located
          property.location))

/-- A position that can be used is the integer that is written. -/
theorem eq_of_requestedOrder? {literal : Option LiteralArgument} {order : Option Int32}
    (h : requestedOrder? literal = .ok order) :
    literal = order.map fun value => .integer value.toInt := by
  match literal with
  | none =>
    obtain rfl := Except.ok.inj h
    rfl
  | some (.integer value) =>
    unfold requestedOrder? at h
    dsimp only at h
    split at h
    · rename_i hrange
      obtain rfl := Except.ok.inj h
      have hvalue : (Int32.ofInt value).toInt = value :=
        Int32.toInt_ofInt_of_le hrange.1 (Int.lt_add_one_of_le hrange.2)
      rw [Option.map_some, hvalue]
    · cases h
  | some (.bool value) => cases h
  | some (.text value) => cases h

namespace ParameterStage

/-- The stage has what the properties so far have become. -/
structure Gathers (stage : ParameterStage) (fates : List PropertyFate) : Prop where
  /-- The optional parameters, in order. -/
  optional : stage.optional = fates.filterMap PropertyFate.optional?
  /-- The required parameters, in order. -/
  required : stage.required.declared = fates.filterMap PropertyFate.required?
  /-- The required parameters are numbered from 1. -/
  numbered : stage.required.declared.map RequiredParameter.declaredOrder =
    List.range' 1 stage.required.declared.length
  /-- The diagnostics about unsuitable types, in order. -/
  unsuitable : stage.diagnostics = fates.filterMap PropertyFate.unsuitable?

/-- Taking in a property adds what becomes of it. -/
theorem Gathers.addProperty {stage next : ParameterStage} {fates : List PropertyFate}
    {property : Property} (hgathers : stage.Gathers fates)
    (h : stage.addProperty property = .ok next) :
    ∃ fate, property.Becomes fate ∧ next.Gathers (fates ++ [fate]) := by
  obtain ⟨hoptional, hrequired, hnumbered, hunsuitable⟩ := hgathers
  -- in each case two of the three lists stay as they are
  have hsame {α : Type} {list : List α} {pick : PropertyFate → Option α} {fate : PropertyFate}
      (hlist : list = fates.filterMap pick) (hnone : pick fate = none) :
      list = (fates ++ [fate]).filterMap pick := by
    rw [List.filterMap_append, ← hlist, List.filterMap_cons_none hnone]
    exact (List.append_nil _).symm
  unfold ParameterStage.addProperty at h
  cases htype : ParameterType.ofTypeText? property.typeText property.typeKind with
  | none =>
    rw [htype] at h
    obtain rfl := Except.ok.inj h
    refine ⟨_, .unsuitable htype, hsame hoptional rfl, hsame hrequired rfl, hnumbered, ?_⟩
    rw [List.filterMap_append, ← hunsuitable]
    rfl
  | some type =>
    rw [htype] at h
    dsimp only at h
    cases hmarked : property.required with
    | none =>
      rw [hmarked] at h
      obtain rfl := Except.ok.inj h
      refine ⟨_, .optional htype hmarked, ?_, hsame hrequired rfl, hnumbered,
        hsame hunsuitable rfl⟩
      rw [List.filterMap_append, ← hoptional]
      rfl
    | some marker =>
      rw [hmarked] at h
      dsimp only at h
      cases horder : requestedOrder? marker.order with
      | error literal =>
        rw [horder] at h
        cases h
      | ok order =>
        rw [horder] at h
        obtain rfl := Except.ok.inj h
        refine ⟨_, .required order (stage.required.declared.length + 1) htype hmarked
          (eq_of_requestedOrder? horder), hsame hoptional rfl, ?_, ?_, hsame hunsuitable rfl⟩
        · rw [List.filterMap_append, ← hrequired]
          rfl
        · simp [RequiredParameters.add, hnumbered, List.range'_concat, Nat.add_comm]

/-- The walk over properties adds what becomes of each of them, in order. -/
theorem Gathers.foldlM {properties : List Property} {stage last : ParameterStage}
    {fates : List PropertyFate} (hgathers : stage.Gathers fates)
    (h : properties.foldlM ParameterStage.addProperty stage = .ok last) :
    ∃ more, List.Forall₂ Property.Becomes properties more ∧ last.Gathers (fates ++ more) := by
  induction properties generalizing stage fates with
  | nil =>
    obtain rfl := Except.ok.inj h
    exact ⟨[], .nil, by rwa [List.append_nil]⟩
  | cons property rest ih =>
    rw [List.foldlM_cons] at h
    cases hnext : stage.addProperty property with
    | error diagnostics =>
      rw [hnext] at h
      cases h
    | ok next =>
      rw [hnext] at h
      obtain ⟨fate, hfate, hgathers'⟩ := hgathers.addProperty hnext
      obtain ⟨more, hmore, hlast⟩ := ih hgathers' h
      refine ⟨fate :: more, .cons hfate hmore, ?_⟩
      rwa [List.append_assoc] at hlast

/-- What the properties of a declaration give is what they become. -/
theorem exists_gathers {properties : List Property} {last : ParameterStage}
    (h : properties.foldlM addProperty {} = .ok last) :
    ∃ fates, List.Forall₂ Property.Becomes properties fates ∧ last.Gathers fates :=
  have hempty : ({} : ParameterStage).Gathers [] := ⟨rfl, rfl, rfl, rfl⟩
  hempty.foldlM h

end ParameterStage

/-! ### Members -/

/-- Whether a mistake of this code is one of a template text. -/
def DiagnosticCode.isOfTemplate : DiagnosticCode → Bool
  | .unclosedSection | .unmatchedClose | .mismatchedClose | .emptyIdentifier | .malformedTag => true
  | _ => false

/-- The codes of template texts are those that begin alike. -/
theorem DiagnosticCode.isOfTemplate_iff (code : DiagnosticCode) :
    code.isOfTemplate = true ↔ "GB10".toList <+: code.text.toList := by
  cases code <;> decide +kernel

/-- What a member gives. -/
inductive MemberContribution where
  /-- Nothing. -/
  | nothing
  /-- A fragment of the target class's artifact. -/
  | inline (template : InlineTemplate)
  /-- A file of its own. -/
  | file (template : FileTemplate)
  /-- A global file. -/
  | globalFile (template : GlobalFileTemplate)
  /-- A fragment of a global file. -/
  | globalChild (template : GlobalChildTemplate)
  /-- No template but findings about its texts. -/
  | faulty (diagnostics : List Diagnostic)
  /-- A global template that breaks its restriction, which refuses the declaration. -/
  | refused (diagnostic : Diagnostic)

namespace MemberContribution

/-- The fragment of the target class's artifact. -/
def inline? : MemberContribution → Option InlineTemplate
  | .inline template => some template
  | _ => none

/-- The file of its own. -/
def file? : MemberContribution → Option FileTemplate
  | .file template => some template
  | _ => none

/-- The global file. -/
def globalFile? : MemberContribution → Option GlobalFileTemplate
  | .globalFile template => some template
  | _ => none

/-- The fragment of a global file. -/
def globalChild? : MemberContribution → Option GlobalChildTemplate
  | .globalChild template => some template
  | _ => none

/-- The findings about its texts. -/
def faults : MemberContribution → List Diagnostic
  | .faulty diagnostics => diagnostics
  | _ => []

/-- The finding that refuses the declaration. -/
def refusal? : MemberContribution → Option Diagnostic
  | .refused diagnostic => some diagnostic
  | _ => none

/-- All findings. -/
def diagnostics (contribution : MemberContribution) : List Diagnostic :=
  contribution.faults ++ contribution.refusal?.toList

end MemberContribution

/-- The templates that members give, each kind in the order of the members. -/
def TemplateSet.ofContributions (contributions : List MemberContribution) : TemplateSet :=
  { inline := contributions.filterMap MemberContribution.inline?
    file := contributions.filterMap MemberContribution.file?
    globalFile := contributions.filterMap MemberContribution.globalFile?
    globalChild := contributions.filterMap MemberContribution.globalChild? }

/-- The findings about the texts of a member with this marker: its constant text, and the name
pattern of a file of its own. -/
def Member.textFindings (member : Member) (text : String) (marker : Marker) : List Diagnostic :=
  (readTemplate member member.name text).diagnostics ++
    match marker with
    | .fileTemplate pattern =>
      (readTemplate member (member.name ++ ".file_name")
        (member.fileNamePattern pattern)).diagnostics
    | _ => []

/-- What a member gives: its first marker decides, and whether its texts can be read. -/
inductive Member.Contributes (member : Member) : MemberContribution → Prop where
  /-- A member without a constant text or without a marker gives nothing. -/
  | nothing (h : member.constantText = none ∨ member.markers = []) : Contributes member .nothing
  /-- An inline template. -/
  | inline {text : String} {body : Template} (htext : member.constantText = some text)
      (hmarker : member.markers.head? = some .template) (hbody : Template.parse text = .ok body) :
      Contributes member (.inline ⟨member.name, body⟩)
  /-- A file template, when the pattern of the file's name can be read too. -/
  | file {text pattern : String} {body fileName : Template}
      (htext : member.constantText = some text)
      (hmarker : member.markers.head? = some (.fileTemplate pattern))
      (hbody : Template.parse text = .ok body)
      (hfileName : Template.parse (member.fileNamePattern pattern) = .ok fileName) :
      Contributes member (.file ⟨member.name, fileName, body⟩)
  /-- A global file template that keeps its restriction. -/
  | globalFile {text generatorName fileName : String} {body : Template}
      (htext : member.constantText = some text)
      (hmarker : member.markers.head? = some (.globalFileTemplate generatorName fileName))
      (hbody : Template.parse text = .ok body) (hrestricted : globalViolation? body = none) :
      Contributes member (.globalFile ⟨member.name, generatorName,
        if Text.isBlankText fileName then generatorName else fileName, body⟩)
  /-- A global child template. -/
  | globalChild {text generatorName : String} {body : Template}
      (htext : member.constantText = some text)
      (hmarker : member.markers.head? = some (.globalChildTemplate generatorName))
      (hbody : Template.parse text = .ok body) :
      Contributes member (.globalChild ⟨member.name, generatorName, body⟩)
  /-- A template with a text that cannot be read gives the findings, of which there is one. -/
  | faulty {text : String} {marker : Marker} (htext : member.constantText = some text)
      (hmarker : member.markers.head? = some marker)
      (hfaulty : member.textFindings text marker ≠ []) :
      Contributes member (.faulty (member.textFindings text marker))
  /-- A global file template that breaks its restriction. -/
  | refused {text generatorName fileName : String} {body : Template} {violation : GlobalViolation}
      (htext : member.constantText = some text)
      (hmarker : member.markers.head? = some (.globalFileTemplate generatorName fileName))
      (hbody : Template.parse text = .ok body) (hbroken : globalViolation? body = some violation) :
      Contributes member (.refused
        ((Finding.invalidGlobalTemplate member.name violation.message).located member.location))

/-- A text is read without a word, or there is a finding and no template. -/
theorem readTemplate_cases (member : Member) (name text : String) :
    (∃ body, Template.parse text = .ok body ∧ readTemplate member name text = ⟨some body, []⟩) ∨
      ∃ diagnostics, diagnostics ≠ [] ∧ readTemplate member name text = ⟨none, diagnostics⟩ := by
  unfold readTemplate
  cases hparse : Template.parse text with
  | ok body => exact .inl ⟨body, rfl, rfl⟩
  | error faults =>
    refine .inr ⟨_, fun hnil => ?_, rfl⟩
    exact Template.parse_error_ne_nil hparse (List.map_eq_nil_iff.1 hnil)

namespace TemplateStage

/-- The stage behind members that give this. -/
def ofContributions (contributions : List MemberContribution) : TemplateStage :=
  { templates := .ofContributions contributions
    diagnostics := contributions.flatMap MemberContribution.diagnostics
    isRejected := contributions.any fun contribution => contribution.refusal?.isSome }

/-- What members give is put together. -/
theorem append_ofContributions (one other : List MemberContribution) :
    (ofContributions one).append (ofContributions other) = ofContributions (one ++ other) := by
  simp [ofContributions, append, TemplateSet.append, TemplateSet.ofContributions]

/-- A member whose texts cannot be read gives the findings alone. -/
theorem ofContributions_faulty (diagnostics : List Diagnostic) :
    ofContributions [.faulty diagnostics] = { diagnostics } := by
  have hdiagnostics : [MemberContribution.faulty diagnostics].flatMap
      MemberContribution.diagnostics = diagnostics := by
    simp [MemberContribution.diagnostics, MemberContribution.faults, MemberContribution.refusal?]
  exact congrArg (TemplateStage.mk {} · false) hdiagnostics

section Markers

variable {member : Member} {text : String}

/-- Whatever the first marker is, findings about the texts are all that the member gives. -/
theorem exists_contributes_faulty {stage : TemplateStage} {marker : Marker}
    {diagnostics : List Diagnostic} (htext : member.constantText = some text)
    (hmarker : member.markers.head? = some marker)
    (hfindings : member.textFindings text marker = diagnostics) (hne : diagnostics ≠ [])
    (hstage : stage = { diagnostics }) :
    ∃ contribution, member.Contributes contribution ∧ stage = ofContributions [contribution] := by
  subst hfindings
  exact ⟨_, .faulty htext hmarker hne, hstage.trans (ofContributions_faulty _).symm⟩

/-- What an inline template gives. -/
theorem exists_contributes_inline (htext : member.constantText = some text)
    (hmarker : member.markers.head? = some .template) :
    ∃ contribution, member.Contributes contribution ∧
      ofInline member text = ofContributions [contribution] := by
  rcases readTemplate_cases member member.name text with
    ⟨body, hbody, hread⟩ | ⟨diagnostics, hne, hread⟩
  · exact ⟨_, .inline htext hmarker hbody, by rw [ofInline, hread]; rfl⟩
  · refine exists_contributes_faulty htext hmarker ?_ hne (by rw [ofInline, hread]; rfl)
    exact (List.append_nil _).trans (congrArg Reported.diagnostics hread)

/-- What a file template gives. -/
theorem exists_contributes_file {pattern : String} (htext : member.constantText = some text)
    (hmarker : member.markers.head? = some (.fileTemplate pattern)) :
    ∃ contribution, member.Contributes contribution ∧
      ofFile member text pattern = ofContributions [contribution] := by
  have hfindings : member.textFindings text (.fileTemplate pattern) =
      (ofFile member text pattern).diagnostics := rfl
  have hname := readTemplate_cases member (member.name ++ ".file_name")
    (member.fileNamePattern pattern)
  unfold Member.fileNamePattern at hname
  rcases readTemplate_cases member member.name text with
    ⟨body, hbody, hread⟩ | ⟨diagnostics, hne, hread⟩
  · rcases hname with ⟨fileName, hfileName, hread'⟩ | ⟨diagnostics, hne, hread'⟩
    · refine ⟨_, .file htext hmarker hbody hfileName, ?_⟩
      rw [ofFile, hread, hread']
      rfl
    · rw [ofFile, hread, hread'] at hfindings ⊢
      exact exists_contributes_faulty htext hmarker hfindings hne rfl
  · rw [ofFile, hread] at hfindings ⊢
    exact exists_contributes_faulty htext hmarker hfindings
      (fun hnil => hne (List.append_eq_nil_iff.1 hnil).1) rfl

/-- What a global file template gives. -/
theorem exists_contributes_globalFile {generatorName fileName : String}
    (htext : member.constantText = some text)
    (hmarker : member.markers.head? = some (.globalFileTemplate generatorName fileName)) :
    ∃ contribution, member.Contributes contribution ∧
      ofGlobalFile member text generatorName fileName = ofContributions [contribution] := by
  rcases readTemplate_cases member member.name text with
    ⟨body, hbody, hread⟩ | ⟨diagnostics, hne, hread⟩
  · cases hviolation : globalViolation? body with
    | none =>
      refine ⟨_, .globalFile htext hmarker hbody hviolation, ?_⟩
      simp only [ofGlobalFile, hread, hviolation]
      rfl
    | some violation =>
      refine ⟨_, .refused htext hmarker hbody hviolation, ?_⟩
      simp only [ofGlobalFile, hread, hviolation]
      rfl
  · refine exists_contributes_faulty htext hmarker ?_ hne (by rw [ofGlobalFile, hread])
    exact (List.append_nil _).trans (congrArg Reported.diagnostics hread)

/-- What a global child template gives. -/
theorem exists_contributes_globalChild {generatorName : String}
    (htext : member.constantText = some text)
    (hmarker : member.markers.head? = some (.globalChildTemplate generatorName)) :
    ∃ contribution, member.Contributes contribution ∧
      ofGlobalChild member text generatorName = ofContributions [contribution] := by
  rcases readTemplate_cases member member.name text with
    ⟨body, hbody, hread⟩ | ⟨diagnostics, hne, hread⟩
  · exact ⟨_, .globalChild htext hmarker hbody, by rw [ofGlobalChild, hread]; rfl⟩
  · refine exists_contributes_faulty htext hmarker ?_ hne (by rw [ofGlobalChild, hread]; rfl)
    exact (List.append_nil _).trans (congrArg Reported.diagnostics hread)

end Markers

/-- A member gives one thing. -/
theorem exists_contributes (member : Member) :
    ∃ contribution, member.Contributes contribution ∧
      ofMember member = ofContributions [contribution] := by
  unfold ofMember
  cases htext : member.constantText with
  | none => exact ⟨.nothing, .nothing (.inl htext), rfl⟩
  | some text =>
    cases hmarkers : member.markers with
    | nil => exact ⟨.nothing, .nothing (.inr hmarkers), rfl⟩
    | cons marker more =>
      have hmarker : member.markers.head? = some marker := by rw [hmarkers]; rfl
      cases marker with
      | template => exact exists_contributes_inline htext hmarker
      | fileTemplate pattern => exact exists_contributes_file htext hmarker
      | globalFileTemplate generatorName fileName =>
        exact exists_contributes_globalFile htext hmarker
      | globalChildTemplate generatorName => exact exists_contributes_globalChild htext hmarker

/-- The walk over members adds what each of them gives, in order. -/
theorem exists_foldlM_ofContributions (members : List Member) (front : List MemberContribution) :
    ∃ contributions, List.Forall₂ Member.Contributes members contributions ∧
      members.foldlM addMember (ofContributions front) =
        .ok (ofContributions (front ++ contributions)) := by
  induction members generalizing front with
  | nil => exact ⟨[], .nil, by rw [List.append_nil]; rfl⟩
  | cons member rest ih =>
    obtain ⟨contribution, hcontribution, hof⟩ := exists_contributes member
    obtain ⟨contributions, hcontributions, hwalk⟩ := ih (front ++ [contribution])
    refine ⟨contribution :: contributions, .cons hcontribution hcontributions, ?_⟩
    rw [List.append_assoc, ← append_ofContributions, ← hof] at hwalk
    exact hwalk

/-- What the members of a declaration give. -/
theorem exists_contributions (members : List Member) :
    ∃ contributions, List.Forall₂ Member.Contributes members contributions ∧
      members.foldlM addMember {} = .ok (ofContributions contributions) :=
  exists_foldlM_ofContributions members []

end TemplateStage

/-- The findings about the texts of a member are of templates. -/
theorem Member.Contributes.isOfTemplate_faults {member : Member}
    {contribution : MemberContribution} (h : member.Contributes contribution) :
    ∀ diagnostic ∈ contribution.faults, diagnostic.code.isOfTemplate = true := by
  have hread (name text : String) :
      ∀ diagnostic ∈ (readTemplate member name text).diagnostics,
        diagnostic.code.isOfTemplate = true := by
    intro diagnostic hmem
    obtain ⟨cause, hcode⟩ := exists_cause_of_mem_readTemplate hmem
    rw [hcode]
    cases cause <;> rfl
  cases h with
  | @faulty text marker htext hmarker hfaulty =>
    intro diagnostic hmem
    rcases List.mem_append.1 hmem with hmem | hmem
    · exact hread _ _ diagnostic hmem
    · cases marker with
      | fileTemplate pattern => exact hread _ _ diagnostic hmem
      | template => cases hmem
      | globalFileTemplate generatorName fileName => cases hmem
      | globalChildTemplate generatorName => cases hmem
  | nothing => exact fun _ hmem => nomatch hmem
  | inline => exact fun _ hmem => nomatch hmem
  | file => exact fun _ hmem => nomatch hmem
  | globalFile => exact fun _ hmem => nomatch hmem
  | globalChild => exact fun _ hmem => nomatch hmem
  | refused => exact fun _ hmem => nomatch hmem

/-- A member that refuses its declaration is a global template that breaks its restriction. -/
theorem Member.Contributes.code_refusal {member : Member} {contribution : MemberContribution}
    (h : member.Contributes contribution) {diagnostic : Diagnostic}
    (hrefusal : contribution.refusal? = some diagnostic) :
    diagnostic.code = .invalidGlobalTemplate := by
  cases h with
  | refused =>
    obtain rfl := Option.some.inj hrefusal
    rfl
  | nothing => cases hrefusal
  | inline => cases hrefusal
  | file => cases hrefusal
  | globalFile => cases hrefusal
  | globalChild => cases hrefusal
  | faulty => cases hrefusal

/-- The diagnostics about unsuitable properties are of that code. -/
theorem Property.Becomes.code_unsuitable {property : Property} {fate : PropertyFate}
    (h : property.Becomes fate) {diagnostic : Diagnostic}
    (hunsuitable : fate.unsuitable? = some diagnostic) :
    diagnostic.code = .disallowedParameterType := by
  cases h with
  | unsuitable =>
    obtain rfl := Option.some.inj hunsuitable
    rfl
  | required => cases hunsuitable
  | optional => cases hunsuitable

/-- What is related to a list, element by element, is related to one of its elements. -/
theorem exists_of_forall₂ {α β : Type} {relates : α → β → Prop} {list : List α} {others : List β}
    (h : List.Forall₂ relates list others) {other : β} (hother : other ∈ others) :
    ∃ one ∈ list, relates one other := by
  induction h with
  | nil => cases hother
  | @cons one first list others hfirst _ ih =>
    rcases List.mem_cons.1 hother with rfl | hrest
    · exact ⟨one, List.mem_cons_self, hfirst⟩
    · obtain ⟨found, hfound, hrelates⟩ := ih hrest
      exact ⟨found, List.mem_cons_of_mem _ hfound, hrelates⟩

section Codes

variable {properties : List Property} {fates : List PropertyFate} {members : List Member}
  {contributions : List MemberContribution} {diagnostic : Diagnostic}

/-- What is reported of properties on the way is that their types are unsuitable. -/
theorem code_of_mem_unsuitable (h : List.Forall₂ Property.Becomes properties fates)
    (hmem : diagnostic ∈ fates.filterMap PropertyFate.unsuitable?) :
    diagnostic.code = .disallowedParameterType := by
  obtain ⟨fate, hfate, hunsuitable⟩ := List.mem_filterMap.1 hmem
  obtain ⟨property, -, hbecomes⟩ := exists_of_forall₂ h hfate
  exact hbecomes.code_unsuitable hunsuitable

/-- What is reported of the texts of members is of templates. -/
theorem isOfTemplate_of_mem_faults
    (h : List.Forall₂ Member.Contributes members contributions)
    (hmem : diagnostic ∈ contributions.flatMap MemberContribution.faults) :
    diagnostic.code.isOfTemplate = true := by
  obtain ⟨contribution, hcontribution, hfault⟩ := List.mem_flatMap.1 hmem
  obtain ⟨member, -, hcontributes⟩ := exists_of_forall₂ h hcontribution
  exact hcontributes.isOfTemplate_faults diagnostic hfault

/-- What refuses a declaration on the way over its members is a global template. -/
theorem code_of_mem_refusals
    (h : List.Forall₂ Member.Contributes members contributions)
    (hmem : diagnostic ∈ contributions.filterMap MemberContribution.refusal?) :
    diagnostic.code = .invalidGlobalTemplate := by
  obtain ⟨contribution, hcontribution, hrefusal⟩ := List.mem_filterMap.1 hmem
  obtain ⟨member, -, hcontributes⟩ := exists_of_forall₂ h hcontribution
  exact hcontributes.code_refusal hrefusal

end Codes

/-! ### Bindings -/

/-- The warning about a declaration whose templates are all empty. -/
def Declaration.emptyWarning (declaration : Declaration) : Diagnostic :=
  (Finding.emptyGenerator declaration.identifier.fullName).located declaration.location

/-- The end of the diagnostics: the warning, unless some template has content. -/
def Declaration.ending (declaration : Declaration) (hasContent : Bool) : List Diagnostic :=
  if hasContent then [] else [declaration.emptyWarning]

/-- There is nothing else at the end. -/
theorem Declaration.code_of_mem_ending (declaration : Declaration) (hasContent : Bool) :
    ∀ one ∈ declaration.ending hasContent, one.code = .emptyGenerator := by
  intro one hone
  cases hasContent with
  | true => cases hone
  | false =>
    obtain rfl := List.mem_singleton.1 hone
    rfl

/-- What is found in the course of a binding, in order. -/
def foundDiagnostics (parameters : ParameterStage) (members : TemplateStage) : List Diagnostic :=
  parameters.diagnostics ++ parameters.required.finish.2 ++ members.diagnostics

section Bindings

variable {declaration : Declaration} {config : Config} {parameters : ParameterStage}
  {members : TemplateStage} {definition : Definition}

/-- A definition has the parameters and templates of the walks, and what is found with it is what
was found on them and, behind that, that no template has content. -/
theorem finishBinding_eq_some
    (h : (finishBinding declaration config parameters members).value = some definition) :
    members.isRejected = false ∧ definition.required = parameters.required.finish.1 ∧
      definition.optional = parameters.optional ∧ definition.templates = members.templates ∧
      (finishBinding declaration config parameters members).diagnostics =
        foundDiagnostics parameters members ++
          declaration.ending definition.hasContent := by
  unfold finishBinding at h ⊢
  dsimp only at h ⊢
  split at h
  · cases h
  · rename_i hkept
    obtain rfl := Option.some.inj h
    rw [if_neg hkept]
    exact ⟨Bool.eq_false_iff.2 hkept, rfl, rfl, rfl, rfl⟩

/-- A binding that is not stopped gives what binding without polls gives. -/
theorem eq_bindDefinition_of_outcome {signal : Signal} {result : Reported Definition}
    (h : (bindDefinitionWith Run.poll declaration config).outcome signal = .ok result) :
    result = bindDefinition declaration config := by
  unfold Run.outcome at h
  split at h
  · rename_i value after hrun
    obtain rfl := Except.ok.inj h
    exact bindDefinitionWith_poll_ok hrun
  · cases h

/-- Without a class finding, and where no position is unusable, the binding is its end. -/
theorem bindDefinition_of_walks (hclass : declaration.classFindings = [])
    (hproperties : declaration.properties.foldlM ParameterStage.addProperty {} = .ok parameters)
    (hmembers : declaration.members.foldlM TemplateStage.addMember {} = .ok members) :
    bindDefinition declaration config = finishBinding declaration config parameters members := by
  rw [bindDefinition_eq, hclass, hproperties, hmembers]

end Bindings

/-- A definition and the diagnostics with it are made up of what has become of the properties and of
what the members give. -/
structure Declaration.Accounts (declaration : Declaration) (fates : List PropertyFate)
    (contributions : List MemberContribution) (definition : Definition)
    (diagnostics : List Diagnostic) : Prop where
  /-- Every property has become one thing. -/
  properties : List.Forall₂ Property.Becomes declaration.properties fates
  /-- The optional parameters are in the order of their declaration. -/
  optional : definition.optional = fates.filterMap PropertyFate.optional?
  /-- The required parameters are those that properties became. -/
  required : definition.required.Perm (fates.filterMap PropertyFate.required?)
  /-- In the order of their declaration they are numbered from 1. -/
  numbered : (fates.filterMap PropertyFate.required?).map RequiredParameter.declaredOrder =
    List.range' 1 (fates.filterMap PropertyFate.required?).length
  /-- They are sorted: by the position asked for, and then by the number. -/
  sorted : definition.required.Pairwise fun one other =>
    one.sortKey.1 < other.sortKey.1 ∨
      one.sortKey.1 = other.sortKey.1 ∧ one.sortKey.2 < other.sortKey.2
  /-- The other properties are the ones reported for their types, in order. -/
  unsuitable : diagnostics.filter (fun diagnostic =>
    diagnostic.code == .disallowedParameterType) = fates.filterMap PropertyFate.unsuitable?
  /-- Every member gives one thing. -/
  members : List.Forall₂ Member.Contributes declaration.members contributions
  /-- No member is a global template that breaks its restriction. -/
  unrefused : ∀ contribution ∈ contributions, contribution.refusal? = none
  /-- The templates are those that members give, each kind in order. -/
  templates : definition.templates = .ofContributions contributions
  /-- The findings about texts are those that the other members give, in order. -/
  faults : diagnostics.filter (fun diagnostic => diagnostic.code.isOfTemplate) =
    contributions.flatMap MemberContribution.faults

/-- Diagnostics of codes that are kept all stay. -/
theorem filter_code_eq_self (keep : DiagnosticCode → Bool) {part : List Diagnostic}
    (h : ∀ one ∈ part, keep one.code = true) :
    part.filter (fun diagnostic => keep diagnostic.code) = part :=
  List.filter_eq_self.2 h

/-- Of diagnostics of codes that are not kept nothing stays. -/
theorem filter_code_eq_nil (keep : DiagnosticCode → Bool) {part : List Diagnostic}
    (h : ∀ one ∈ part, keep one.code = false) :
    part.filter (fun diagnostic => keep diagnostic.code) = [] :=
  List.filter_eq_nil_iff.2 fun one hone => by rw [h one hone]; exact Bool.false_ne_true

/-- The parts of what is found can be told by their codes. -/
theorem filter_parts {unsuitable repeats faults endings : List Diagnostic}
    (hunsuitable : ∀ one ∈ unsuitable, one.code = .disallowedParameterType)
    (hrepeats : ∀ one ∈ repeats, one.code = .duplicateRequiredOrder)
    (hfaults : ∀ one ∈ faults, one.code.isOfTemplate = true)
    (hendings : ∀ one ∈ endings, one.code = .emptyGenerator) :
    (unsuitable ++ repeats ++ faults ++ endings).filter (fun diagnostic =>
        diagnostic.code == .disallowedParameterType) = unsuitable ∧
      (unsuitable ++ repeats ++ faults ++ endings).filter (fun diagnostic =>
        diagnostic.code.isOfTemplate) = faults := by
  have hother : ∀ one ∈ faults, (one.code == .disallowedParameterType) = false := by
    intro one hone
    refine beq_eq_false_iff_ne.2 fun hcode => ?_
    have htemplate := hfaults one hone
    rw [hcode] at htemplate
    cases htemplate
  constructor
  · rw [List.filter_append, List.filter_append, List.filter_append,
      filter_code_eq_self (· == .disallowedParameterType) fun one hone => by
        rw [hunsuitable one hone]; rfl,
      filter_code_eq_nil (· == .disallowedParameterType) fun one hone => by
        rw [hrepeats one hone]; rfl,
      filter_code_eq_nil (· == .disallowedParameterType) hother,
      filter_code_eq_nil (· == .disallowedParameterType) fun one hone => by
        rw [hendings one hone]; rfl, List.append_nil, List.append_nil, List.append_nil]
  · rw [List.filter_append, List.filter_append, List.filter_append,
      filter_code_eq_nil DiagnosticCode.isOfTemplate fun one hone => by
        rw [hunsuitable one hone]; rfl,
      filter_code_eq_nil DiagnosticCode.isOfTemplate fun one hone => by
        rw [hrepeats one hone]; rfl,
      filter_code_eq_self DiagnosticCode.isOfTemplate hfaults,
      filter_code_eq_nil DiagnosticCode.isOfTemplate fun one hone => by
        rw [hendings one hone]; rfl, List.append_nil]
    rfl

/-- Where no member refuses the declaration, the findings of members are those about texts. -/
theorem flatMap_diagnostics_of_unrefused {contributions : List MemberContribution}
    (h : ∀ contribution ∈ contributions, contribution.refusal? = none) :
    contributions.flatMap MemberContribution.diagnostics =
      contributions.flatMap MemberContribution.faults :=
  List.flatMap_congr fun contribution hmem => by
    rw [MemberContribution.diagnostics, h contribution hmem]
    exact List.append_nil _

/-- Every definition that a declaration is bound to has, with the diagnostics of the binding, what
has become of the properties, one by one, and what the members give, one by one. -/
theorem bindDefinition_accounts {declaration : Declaration} {config : Config} {signal : Signal}
    {result : Reported Definition} {definition : Definition}
    (hresult : (bindDefinitionWith Run.poll declaration config).outcome signal = .ok result)
    (hvalue : result.value = some definition) :
    ∃ fates contributions, declaration.Accounts fates contributions definition
      result.diagnostics := by
  obtain rfl := eq_bindDefinition_of_outcome hresult
  obtain ⟨hclass, parameters, members, hproperties, hmembers, hfinish⟩ :=
    exists_of_bindDefinition hvalue
  obtain ⟨hkept, hrequired, hoptional, htemplates, hdiagnostics⟩ := finishBinding_eq_some hfinish
  obtain ⟨fates, hfates, hgathers⟩ := ParameterStage.exists_gathers hproperties
  obtain ⟨contributions, hcontributions, hwalk⟩ :=
    TemplateStage.exists_contributions declaration.members
  obtain rfl := Except.ok.inj (hmembers.symm.trans hwalk)
  have hunrefused : ∀ contribution ∈ contributions, contribution.refusal? = none := by
    intro contribution hmem
    have hnot := List.any_eq_false.1 hkept contribution hmem
    exact Option.not_isSome_iff_eq_none.1 hnot
  have hfaults := flatMap_diagnostics_of_unrefused hunrefused
  have hnumbered := hgathers.numbered
  rw [hgathers.required] at hnumbered
  -- the four parts of the diagnostics differ in their codes
  have hrepeats : ∀ warning ∈ parameters.required.finish.2,
      warning.code = .duplicateRequiredOrder :=
    fun _ => RequiredParameters.code_of_mem_repeatWarnings
  have hparts := filter_parts (fun _ => code_of_mem_unsuitable hfates) hrepeats
    (fun _ => isOfTemplate_of_mem_faults hcontributions)
    (declaration.code_of_mem_ending definition.hasContent)
  rw [bindDefinition_of_walks hclass hproperties hmembers, hdiagnostics, foundDiagnostics,
    hgathers.unsuitable, TemplateStage.ofContributions, hfaults]
  refine ⟨fates, contributions, hfates, hoptional.trans hgathers.optional, ?_, hnumbered, ?_,
    hparts.1, hcontributions, hunrefused, htemplates, hparts.2⟩
  · rw [hrequired, ← hgathers.required]
    exact parameters.required.finish_perm
  · rw [hrequired]
    exact RequiredParameters.pairwise_sortKey_finish hgathers.numbered

/-- A register of letters: a property that asks for a position, one that asks for nothing and one of
an unsuitable type, and members of every kind, one of which has two markers and one a name pattern
that cannot be read. -/
def register : Declaration :=
  { identifier := ⟨"Acme", "LetterGenerator"⟩
    kind := .onField
    properties :=
      [.ofType "when" "DateTime",
        .ofType "bold" "bool",
        (Property.ofType "from" "string").require (some (.integer (-2)))]
    members :=
      [.ofTemplate "Copy" (.fileTemplate "\x7b\x7b To") "Copy",
        { name := "Body", markers := [.template, .fileTemplate "\x7b\x7b"]
          constantText := some "Thank you." },
        { name := "Note", constantText := some "\x7b\x7b" },
        .ofTemplate "Index" (.globalFileTemplate "Letters" " ") "\x7b\x7b ChildContent \x7d\x7d",
        .ofTemplate "Entry" (.globalChildTemplate "Letters") "Letter"] }

/-- The register is bound to a definition with a required parameter, an optional one and three
templates, and there are two diagnostics. -/
theorem register_accounts :
    ∃ (result : Reported Definition) (definition : Definition)
      (fates : List PropertyFate) (contributions : List MemberContribution),
      (bindDefinitionWith Run.poll register {}).outcome ⟨.fresh, []⟩ = .ok result ∧
      result.value = some definition ∧
      register.Accounts fates contributions definition result.diagnostics ∧
      definition.required.map (fun parameter => (parameter.name, parameter.declaredOrder)) =
        [("from", 1)] ∧
      definition.optional.map OptionalParameter.name = ["bold"] ∧
      definition.templates.inline.map InlineTemplate.member = ["Body"] ∧
      definition.templates.file = [] ∧
      definition.templates.globalFile.map GlobalFileTemplate.fileName = ["Letters"] ∧
      definition.templates.globalChild.map GlobalChildTemplate.member = ["Entry"] ∧
      result.diagnostics.map Diagnostic.code = [.disallowedParameterType, .malformedTag] := by
  have hresult := outcome_bindDefinitionWith register {} ((Token.neverCancels_iff .fresh).2
    (.inr rfl)) []
  obtain ⟨definition, hvalue⟩ := Option.isSome_iff_exists.1
    (show (bindDefinition register {}).value.isSome = true by decide +kernel)
  obtain ⟨fates, contributions, haccounts⟩ := bindDefinition_accounts hresult hvalue
  have hparameters : (bindDefinition register {}).value.map (fun definition =>
      (definition.required.map (fun parameter => (parameter.name, parameter.declaredOrder)),
        definition.optional.map OptionalParameter.name)) =
      some ([("from", 1)], ["bold"]) := by decide +kernel
  have htemplates : (bindDefinition register {}).value.map (fun definition =>
      (definition.templates.inline.map InlineTemplate.member, definition.templates.file,
        definition.templates.globalFile.map GlobalFileTemplate.fileName,
        definition.templates.globalChild.map GlobalChildTemplate.member)) =
      some (["Body"], [], ["Letters"], ["Entry"]) := by decide +kernel
  rw [hvalue, Option.map_some, Option.some.injEq, Prod.mk.injEq] at hparameters
  obtain ⟨hrequired, hoptional⟩ := hparameters
  simp only [hvalue, Option.map_some, Option.some.injEq, Prod.mk.injEq] at htemplates
  obtain ⟨hinline, hfile, hglobalFile, hglobalChild⟩ := htemplates
  exact ⟨_, definition, fates, contributions, hresult, hvalue, haccounts, hrequired, hoptional,
    hinline, hfile, hglobalFile, hglobalChild, by decide +kernel⟩

end TemplateCodegen
