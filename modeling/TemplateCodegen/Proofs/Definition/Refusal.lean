import TemplateCodegen.Proofs.ClassIdentifier.Attribute
import TemplateCodegen.Proofs.Definition.Contributions

/-!
# What refuses a declaration

A declaration is refused for its class, for a position that cannot be used, or for a global template
that breaks its restriction, and each of these is a diagnostic of its own code. Every other
diagnostic leaves the definition standing; one that produces nothing is reported as such behind all
the others. Main statement: the diagnostics tell whether there is a definition, and a stopped
binding has no other result (`bindDefinition_judges`).
-/

namespace TemplateCodegen

open Incremental

/-! ### Codes -/

/-- Whether a mistake of this code refuses the declaration. -/
def DiagnosticCode.isStructural : DiagnosticCode → Bool
  | .notSealed | .partialDeclaration | .invalidGeneratorName | .invalidRequiredOrder => true
  | .invalidGlobalTemplate => true
  | _ => false

/-- The codes that refuse a declaration, as they are written. -/
theorem DiagnosticCode.isStructural_iff (code : DiagnosticCode) :
    code.isStructural = true ↔
      code.text ∈ ["GB2001", "GB2002", "GB2003", "GB2004", "GB2006"] := by
  cases code <;> decide +kernel

/-- Whether a mistake of this code is one of the class itself. -/
def DiagnosticCode.isOfClass : DiagnosticCode → Bool
  | .notSealed | .partialDeclaration | .invalidGeneratorName => true
  | _ => false

/-- The codes about the class itself, as they are written. -/
theorem DiagnosticCode.isOfClass_iff (code : DiagnosticCode) :
    code.isOfClass = true ↔ code.text ∈ ["GB2001", "GB2002", "GB2003"] := by
  cases code <;> decide +kernel

/-- Whether a diagnostic with this code stands beside a definition: it is about a property or a
member that is dropped, or about positions asked for twice. -/
def DiagnosticCode.isPassing (code : DiagnosticCode) : Bool :=
  code.isTolerated || code == .duplicateRequiredOrder

/-- Such a mistake refuses no declaration, and is not that nothing is produced. -/
theorem DiagnosticCode.not_isStructural_of_isPassing {code : DiagnosticCode}
    (h : code.isPassing = true) :
    code.isStructural = false ∧ code.isOfClass = false ∧ code ≠ .emptyGenerator := by
  cases code <;> first | exact ⟨rfl, rfl, by decide⟩ | exact absurd h (by decide)

/-! ### The class -/

/-- The class of a declaration breaks a rule for generator classes. -/
inductive Declaration.Breaks (declaration : Declaration) : Finding → Prop where
  /-- It is declared in parts. -/
  | inParts (h : declaration.isPartial = true) :
      Breaks declaration (.partialDeclaration declaration.identifier.fullName)
  /-- It is not sealed. -/
  | unsealed (h : declaration.isSealed = false) :
      Breaks declaration (.notSealed declaration.identifier.fullName)
  /-- It neither has a name of its own that is not blank nor ends in the suffix. -/
  | misnamed
      (hname : ∀ override, declaration.nameOverride = some override →
        Text.isBlankText override.name = true)
      (hsuffix : ¬ declaration.identifier.EndsInGenerator) :
      Breaks declaration (.invalidGeneratorName declaration.identifier.className)

/-- A declaration has no name of its own when every name of its own is blank. -/
theorem Declaration.hasExplicitName_eq_false_iff (declaration : Declaration) :
    declaration.hasExplicitName = false ↔
      ∀ override, declaration.nameOverride = some override →
        Text.isBlankText override.name = true := by
  unfold hasExplicitName
  cases declaration.nameOverride with
  | none => exact ⟨fun _ _ h => (nomatch h), fun _ => rfl⟩
  | some override =>
    rw [Bool.not_eq_false']
    exact ⟨fun h other hother => Option.some.inj hother ▸ h, fun h => h override rfl⟩

/-- The findings about the class are the rules that it breaks. -/
theorem Declaration.mem_classFindings_iff (declaration : Declaration) (finding : Finding) :
    finding ∈ declaration.classFindings ↔ declaration.Breaks finding := by
  simp only [classFindings, List.mem_append, List.mem_ite_nil_left, List.mem_ite_nil_right,
    List.mem_singleton, Bool.not_eq_true, Bool.or_eq_false_iff]
  constructor
  · rintro ((⟨h, rfl⟩ | ⟨h, rfl⟩) | ⟨⟨hname, hsuffix⟩, rfl⟩)
    · exact .inParts h
    · exact .unsealed h
    · refine .misnamed (declaration.hasExplicitName_eq_false_iff.1 hname) fun hends => ?_
      rw [(declaration.identifier.hasGeneratorSuffix_iff).2 hends] at hsuffix
      cases hsuffix
  · intro h
    cases h with
    | inParts h => exact .inl (.inl ⟨h, rfl⟩)
    | unsealed h => exact .inl (.inr ⟨h, rfl⟩)
    | misnamed hname hsuffix =>
      refine .inr ⟨⟨declaration.hasExplicitName_eq_false_iff.2 hname, ?_⟩, rfl⟩
      exact Bool.eq_false_iff.2 fun h =>
        hsuffix ((declaration.identifier.hasGeneratorSuffix_iff).1 h)

/-- What a class breaks is of a code about the class. -/
theorem Declaration.Breaks.isOfClass {declaration : Declaration} {finding : Finding}
    (h : declaration.Breaks finding) : finding.code.isOfClass = true := by
  cases h <;> rfl

/-! ### The walks -/

/-- A property that ends the walk is one whose position cannot be used. -/
theorem ParameterStage.exists_of_addProperty_error {stage : ParameterStage} {property : Property}
    {diagnostics : List Diagnostic} (h : stage.addProperty property = .error diagnostics) :
    ∃ last : Diagnostic, last.code = .invalidRequiredOrder ∧
      diagnostics = stage.diagnostics ++ [last] := by
  unfold addProperty at h
  split at h
  · cases h
  · split at h
    · cases h
    · split at h
      · cases h
      · obtain rfl := Except.error.inj h
        exact ⟨_, rfl, rfl⟩

/-- Where the walk over properties ends early, the types found unsuitable before are reported, and
the position that cannot be used. -/
theorem ParameterStage.Gathers.foldlM_error {properties : List Property} {stage : ParameterStage}
    {fates : List PropertyFate} {diagnostics : List Diagnostic} (hgathers : stage.Gathers fates)
    (h : properties.foldlM ParameterStage.addProperty stage = .error diagnostics) :
    ∃ (front : List Property) (more : List PropertyFate) (last : Diagnostic),
      List.Forall₂ Property.Becomes front more ∧ last.code = .invalidRequiredOrder ∧
      diagnostics = (fates ++ more).filterMap PropertyFate.unsuitable? ++ [last] := by
  induction properties generalizing stage fates with
  | nil => cases h
  | cons property rest ih =>
    rw [List.foldlM_cons] at h
    cases hnext : stage.addProperty property with
    | error found =>
      rw [hnext] at h
      obtain rfl := Except.error.inj h
      obtain ⟨last, hcode, hfound⟩ := exists_of_addProperty_error hnext
      rw [hgathers.unsuitable] at hfound
      exact ⟨[], [], last, .nil, hcode, by rwa [List.append_nil]⟩
    | ok next =>
      rw [hnext] at h
      obtain ⟨fate, hfate, hgathers'⟩ := hgathers.addProperty hnext
      obtain ⟨front, more, last, hmore, hcode, hdiagnostics⟩ := ih hgathers' h
      rw [List.append_assoc] at hdiagnostics
      exact ⟨property :: front, fate :: more, last, .cons hfate hmore, hcode, hdiagnostics⟩

/-- The templates of all four kinds, without the patterns of file names. -/
def TemplateSet.bodies (templates : TemplateSet) : List Template :=
  templates.inline.map InlineTemplate.body ++ templates.file.map FileTemplate.body ++
    templates.globalFile.map GlobalFileTemplate.body ++
    templates.globalChild.map GlobalChildTemplate.body

/-- Templates have content when one of them is not empty. -/
theorem TemplateSet.hasContent_iff (templates : TemplateSet) :
    templates.hasContent = true ↔ ∃ body ∈ templates.bodies, body ≠ .empty := by
  have hempty (body : Template) : (!body.isEmpty) = true ↔ body ≠ .empty := by
    cases body <;> simp [Template.isEmpty]
  simp only [hasContent, bodies, Bool.or_eq_true, List.any_eq_true, hempty, List.mem_append,
    List.mem_map, or_and_right, exists_or, exists_exists_and_eq_and]

section Ends

variable {declaration : Declaration} {config : Config} {front : List Property}
  {fates : List PropertyFate} {contributions : List MemberContribution}
  {parameters : ParameterStage}

/-- What is found on the way passes, unless it is that a global template breaks its restriction. -/
theorem isPassing_of_mem_found (hgathers : parameters.Gathers fates)
    (hfates : List.Forall₂ Property.Becomes front fates)
    (hcontributions : List.Forall₂ Member.Contributes declaration.members contributions)
    {diagnostic : Diagnostic}
    (hmem : diagnostic ∈
      foundDiagnostics parameters (TemplateStage.ofContributions contributions)) :
    diagnostic.code.isPassing = true ∨
      diagnostic ∈ contributions.filterMap MemberContribution.refusal? := by
  rcases List.mem_append.1 hmem with hmem | hmem
  · rcases List.mem_append.1 hmem with hmem | hmem
    · rw [hgathers.unsuitable] at hmem
      rw [code_of_mem_unsuitable hfates hmem]
      exact .inl rfl
    · rw [RequiredParameters.code_of_mem_repeatWarnings hmem]
      exact .inl rfl
  · obtain ⟨contribution, hcontribution, hmem⟩ := List.mem_flatMap.1 hmem
    rcases List.mem_append.1 hmem with hfault | hrefusal
    · have htemplate := isOfTemplate_of_mem_faults hcontributions
        (List.mem_flatMap.2 ⟨contribution, hcontribution, hfault⟩)
      refine .inl ?_
      cases hcode : diagnostic.code <;> rw [hcode] at htemplate <;>
        first | rfl | exact absurd htemplate (by decide)
    · exact .inr (List.mem_filterMap.2 ⟨contribution, hcontribution, Option.mem_toList.1 hrefusal⟩)

/-- A member that refuses the declaration is found out on the way. -/
theorem isRejected_ofContributions_iff :
    (TemplateStage.ofContributions contributions).isRejected = true ↔
      ∃ diagnostic, diagnostic ∈ contributions.filterMap MemberContribution.refusal? := by
  simp only [TemplateStage.ofContributions, List.any_eq_true, List.mem_filterMap,
    Option.isSome_iff_exists]
  constructor
  · rintro ⟨contribution, hmem, diagnostic, h⟩
    exact ⟨diagnostic, contribution, hmem, h⟩
  · rintro ⟨diagnostic, contribution, hmem, h⟩
    exact ⟨contribution, hmem, diagnostic, h⟩

/-- What refuses the declaration on the way over its members is reported. -/
theorem mem_found_of_mem_refusals {diagnostic : Diagnostic}
    (h : diagnostic ∈ contributions.filterMap MemberContribution.refusal?) :
    diagnostic ∈ foundDiagnostics parameters (TemplateStage.ofContributions contributions) := by
  obtain ⟨contribution, hmem, hrefusal⟩ := List.mem_filterMap.1 h
  exact List.mem_append_right _ (List.mem_flatMap.2 ⟨contribution, hmem,
    List.mem_append_right _ (Option.mem_toList.2 hrefusal)⟩)

end Ends

/-! ### Judgements -/

/-- What the result of a binding tells about the declaration. -/
structure Declaration.IsJudged (declaration : Declaration) (result : Reported Definition) :
    Prop where
  /-- There is no definition exactly when a mistake is reported that refuses the declaration. -/
  refused_iff : result.value = none ↔
    ∃ diagnostic ∈ result.diagnostics, diagnostic.code.isStructural = true
  /-- Of the class, exactly the rules that it breaks are reported, at the place of the declaration.
  -/
  class_iff (diagnostic : Diagnostic) :
    diagnostic ∈ result.diagnostics ∧ diagnostic.code.isOfClass = true ↔
      ∃ finding, declaration.Breaks finding ∧ finding.located declaration.location = diagnostic
  /-- A definition without content is reported, once and behind all the others. -/
  empty (definition : Definition) (hvalue : result.value = some definition)
    (hempty : ∀ body ∈ definition.templates.bodies, body = .empty) :
    ∃ front, result.diagnostics = front ++ [declaration.emptyWarning] ∧
      ∀ diagnostic ∈ front, diagnostic.code ≠ .emptyGenerator
  /-- A definition with content is not. -/
  content (definition : Definition) (hvalue : result.value = some definition)
    (hcontent : ∃ body ∈ definition.templates.bodies, body ≠ .empty) :
    ∀ diagnostic ∈ result.diagnostics, diagnostic.code ≠ .emptyGenerator

section Judgements

variable {declaration : Declaration} {config : Config}

/-- A class that breaks rules is reported with all of them. -/
theorem isJudged_of_classFindings (hclass : declaration.classFindings ≠ []) :
    declaration.IsJudged (bindDefinition declaration config) := by
  have hresult : bindDefinition declaration config =
      ⟨none, declaration.classFindings.map fun finding =>
        finding.located declaration.location⟩ := by
    rw [bindDefinition_eq]
    cases hfindings : declaration.classFindings with
    | nil => exact absurd hfindings hclass
    | cons finding findings => rfl
  rw [hresult]
  refine ⟨iff_of_true rfl ?_, fun diagnostic => ⟨?_, ?_⟩, (fun _ hvalue => nomatch hvalue),
    (fun _ hvalue => nomatch hvalue)⟩
  · obtain ⟨finding, hfinding⟩ := List.exists_mem_of_ne_nil _ hclass
    refine ⟨_, List.mem_map_of_mem hfinding, ?_⟩
    have hbreaks := (declaration.mem_classFindings_iff finding).1 hfinding
    cases hbreaks <;> rfl
  · rintro ⟨hmem, -⟩
    obtain ⟨finding, hfinding, rfl⟩ := List.mem_map.1 hmem
    exact ⟨finding, (declaration.mem_classFindings_iff finding).1 hfinding, rfl⟩
  · rintro ⟨finding, hbreaks, rfl⟩
    have hfinding := (declaration.mem_classFindings_iff finding).2 hbreaks
    exact ⟨List.mem_map_of_mem hfinding, hbreaks.isOfClass⟩

/-- A class that breaks no rule has no diagnostic of its own. -/
theorem class_iff_of_not_isOfClass (hclass : declaration.classFindings = [])
    {diagnostics : List Diagnostic}
    (h : ∀ diagnostic ∈ diagnostics, diagnostic.code.isOfClass = false) (diagnostic : Diagnostic) :
    diagnostic ∈ diagnostics ∧ diagnostic.code.isOfClass = true ↔
      ∃ finding, declaration.Breaks finding ∧
        finding.located declaration.location = diagnostic := by
  constructor
  · rintro ⟨hmem, hcode⟩
    rw [h diagnostic hmem] at hcode
    cases hcode
  · rintro ⟨finding, hbreaks, -⟩
    have hfinding := (declaration.mem_classFindings_iff finding).2 hbreaks
    rw [hclass] at hfinding
    cases hfinding

/-- A position that cannot be used is reported behind the unsuitable types in front of it. -/
theorem isJudged_of_walk_error (hclass : declaration.classFindings = [])
    {diagnostics : List Diagnostic}
    (hwalk : declaration.properties.foldlM ParameterStage.addProperty {} = .error diagnostics) :
    declaration.IsJudged (bindDefinition declaration config) := by
  have hresult : bindDefinition declaration config = ⟨none, diagnostics⟩ := by
    rw [bindDefinition_eq, hclass, hwalk]
  have hempty : ({} : ParameterStage).Gathers [] := ⟨rfl, rfl, rfl, rfl⟩
  obtain ⟨front, fates, last, hfates, hcode, rfl⟩ := hempty.foldlM_error hwalk
  rw [hresult]
  refine ⟨iff_of_true rfl ⟨last, ?_, by rw [hcode]; rfl⟩,
    class_iff_of_not_isOfClass hclass fun diagnostic hmem => ?_,
    (fun _ hvalue => nomatch hvalue), (fun _ hvalue => nomatch hvalue)⟩
  · exact List.mem_append_right _ (List.mem_singleton.2 rfl)
  · rcases List.mem_append.1 hmem with hmem | hmem
    · rw [code_of_mem_unsuitable hfates hmem]
      rfl
    · obtain rfl := List.mem_singleton.1 hmem
      rw [hcode]
      rfl

section Walks

variable {parameters : ParameterStage} {members : TemplateStage}

/-- Members that refuse the declaration leave no definition. -/
theorem isJudged_of_isRejected (hclass : declaration.classFindings = [])
    (hrejected : members.isRejected = true)
    (hfound : ∀ diagnostic ∈ foundDiagnostics parameters members,
      diagnostic.code.isPassing = true ∨ diagnostic.code = .invalidGlobalTemplate)
    (hrefusal : ∃ diagnostic ∈ foundDiagnostics parameters members,
      diagnostic.code = .invalidGlobalTemplate) :
    declaration.IsJudged (finishBinding declaration config parameters members) := by
  have hresult : finishBinding declaration config parameters members =
      ⟨none, foundDiagnostics parameters members⟩ := if_pos hrejected
  rw [hresult]
  refine ⟨iff_of_true rfl ?_, class_iff_of_not_isOfClass hclass fun diagnostic hmem => ?_,
    (fun _ hvalue => nomatch hvalue), (fun _ hvalue => nomatch hvalue)⟩
  · obtain ⟨diagnostic, hmem, hcode⟩ := hrefusal
    exact ⟨diagnostic, hmem, by rw [hcode]; rfl⟩
  · rcases hfound diagnostic hmem with hpassing | hcode
    · exact (DiagnosticCode.not_isStructural_of_isPassing hpassing).2.1
    · rw [hcode]
      rfl

/-- Otherwise there is a definition, and it is told whether its templates are all empty. -/
theorem isJudged_of_not_isRejected (hclass : declaration.classFindings = [])
    (hkept : members.isRejected = false)
    (hfound : ∀ diagnostic ∈ foundDiagnostics parameters members,
      diagnostic.code.isPassing = true) :
    declaration.IsJudged (finishBinding declaration config parameters members) := by
  obtain ⟨definition, hvalue⟩ :
      ∃ definition, (finishBinding declaration config parameters members).value =
        some definition := by
    refine ⟨_, congrArg Reported.value (if_neg ?_)⟩
    rw [hkept]
    exact Bool.false_ne_true
  obtain ⟨-, -, -, -, hdiagnostics⟩ := finishBinding_eq_some hvalue
  have hpassing := fun diagnostic hmem =>
    DiagnosticCode.not_isStructural_of_isPassing (hfound diagnostic hmem)
  have hending := declaration.code_of_mem_ending definition.hasContent
  have hcontent := definition.templates.hasContent_iff
  refine ⟨iff_of_false (by rw [hvalue]; exact Option.some_ne_none _) ?_,
    class_iff_of_not_isOfClass hclass fun diagnostic hmem => ?_, fun other hother hempty => ?_,
    fun other hother hbody => ?_⟩
  · rintro ⟨diagnostic, hmem, hcode⟩
    rw [hdiagnostics] at hmem
    rcases List.mem_append.1 hmem with hmem | hmem
    · rw [(hpassing diagnostic hmem).1] at hcode
      cases hcode
    · rw [hending diagnostic hmem] at hcode
      cases hcode
  · rw [hdiagnostics] at hmem
    rcases List.mem_append.1 hmem with hmem | hmem
    · exact (hpassing diagnostic hmem).2.1
    · rw [hending diagnostic hmem]
      rfl
  · obtain rfl := Option.some.inj (hvalue.symm.trans hother)
    have hnone : definition.hasContent = false := by
      refine Bool.eq_false_iff.2 fun h => ?_
      obtain ⟨body, hbody, hne⟩ := hcontent.1 h
      exact hne (hempty body hbody)
    rw [hdiagnostics, hnone]
    exact ⟨_, rfl, fun diagnostic hmem => (hpassing diagnostic hmem).2.2⟩
  · obtain rfl := Option.some.inj (hvalue.symm.trans hother)
    have hsome : definition.hasContent = true := hcontent.2 hbody
    rw [hdiagnostics, hsome]
    intro diagnostic hmem
    exact (hpassing diagnostic ((List.append_nil _).subst hmem)).2.2

/-- A walk over the properties that comes to its end is followed by one over the members. -/
theorem isJudged_of_walks (hclass : declaration.classFindings = [])
    (hwalk : declaration.properties.foldlM ParameterStage.addProperty {} = .ok parameters) :
    declaration.IsJudged (bindDefinition declaration config) := by
  obtain ⟨fates, hfates, hgathers⟩ := ParameterStage.exists_gathers hwalk
  obtain ⟨contributions, hcontributions, hmembers⟩ :=
    TemplateStage.exists_contributions declaration.members
  have hfound (diagnostic : Diagnostic) (hmem : diagnostic ∈
      foundDiagnostics parameters (TemplateStage.ofContributions contributions)) :=
    isPassing_of_mem_found hgathers hfates hcontributions hmem
  rw [bindDefinition_of_walks hclass hwalk hmembers]
  cases hrejected : (TemplateStage.ofContributions contributions).isRejected with
  | true =>
    obtain ⟨diagnostic, hrefusal⟩ := isRejected_ofContributions_iff.1 hrejected
    refine isJudged_of_isRejected hclass hrejected (fun other hmem => ?_)
      ⟨diagnostic, mem_found_of_mem_refusals hrefusal, code_of_mem_refusals hcontributions hrefusal⟩
    exact (hfound other hmem).imp_right (code_of_mem_refusals hcontributions)
  | false =>
    refine isJudged_of_not_isRejected hclass hrejected fun diagnostic hmem => ?_
    refine (hfound diagnostic hmem).resolve_right fun hrefusal => ?_
    have h := isRejected_ofContributions_iff.2 ⟨diagnostic, hrefusal⟩
    rw [hrejected] at h
    cases h

end Walks

/-- Wherever a binding ends, its diagnostics judge the declaration. -/
theorem isJudged_bindDefinition (declaration : Declaration) (config : Config) :
    declaration.IsJudged (bindDefinition declaration config) := by
  by_cases hclass : declaration.classFindings = []
  · cases hwalk : declaration.properties.foldlM ParameterStage.addProperty {} with
    | error diagnostics => exact isJudged_of_walk_error hclass hwalk
    | ok parameters => exact isJudged_of_walks hclass hwalk
  · exact isJudged_of_classFindings hclass

end Judgements

/-- A binding has one result, which judges the declaration. It polls at least once, and is stopped
exactly when one of its polls finds the request; otherwise it gives that result, and always when
nobody asks for a stop. -/
theorem bindDefinition_judges (declaration : Declaration) (config : Config) :
    ∃ (result : Reported Definition) (polls : Nat), declaration.IsJudged result ∧ 0 < polls ∧
      (∀ token spent,
        (bindDefinitionWith Run.poll declaration config).outcome ⟨token, spent⟩ =
          if (token.after polls).isSome then .ok result else .error .cancelled) ∧
      ∀ token spent, token.NeverCancels →
        (bindDefinitionWith Run.poll declaration config).outcome ⟨token, spent⟩ = .ok result := by
  obtain ⟨polls, hpolls⟩ := bindDefinitionWith_polls declaration config
  refine ⟨_, polls, isJudged_bindDefinition declaration config, ?_, fun token spent => ?_,
    fun token spent hnever => outcome_bindDefinitionWith declaration config hnever spent⟩
  · -- a request that is there from the start is found
    refine Nat.pos_of_ne_zero fun hzero => ?_
    subst hzero
    have hstart := hpolls (.live (some 0)) []
    cases hstart
  · have hend := hpolls token spent
    unfold Run.outcome
    cases hafter : token.after polls with
    | none =>
      rw [hafter] at hend
      obtain ⟨after, hend⟩ := hend
      rw [hend]
      rfl
    | some next =>
      rw [hafter] at hend
      rw [hend]
      rfl

/-- A class in parts that is not sealed and not named as generators are. -/
def sketch : Declaration :=
  { identifier := ⟨"Acme", "Letter"⟩
    kind := .onField
    isSealed := false
    isPartial := true
    members := [.ofTemplate "Body" .template "Thank you."] }

/-- The sketch is refused for all three, unless it is stopped at the start. -/
theorem sketch_judged :
    ∃ result : Reported Definition, sketch.IsJudged result ∧
      (bindDefinitionWith Run.poll sketch {}).outcome ⟨.fresh, []⟩ = .ok result ∧
      (bindDefinitionWith Run.poll sketch {}).outcome ⟨.live (some 0), []⟩ = .error .cancelled ∧
      result.value = none ∧
      result.diagnostics.map (fun diagnostic => diagnostic.code.text) =
        ["GB2002", "GB2001", "GB2003"] := by
  obtain ⟨result, polls, hjudged, hpos, hstops, hends⟩ := bindDefinition_judges sketch {}
  have hresult := hends .fresh [] ((Token.neverCancels_iff .fresh).2 (.inr rfl))
  have hstopped := hstops (.live (some 0)) []
  rw [if_neg (by rw [Token.isSome_after_live]; omega)] at hstopped
  obtain rfl := eq_bindDefinition_of_outcome hresult
  have hvalue : (bindDefinition sketch {}).value.isNone = true := by decide +kernel
  exact ⟨_, hjudged, hresult, hstopped, Option.isNone_iff_eq_none.1 hvalue, by decide +kernel⟩

end TemplateCodegen
