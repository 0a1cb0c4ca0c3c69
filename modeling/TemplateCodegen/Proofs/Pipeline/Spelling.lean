import TemplateCodegen.Proofs.Pipeline.Admission

/-!
# Where equal records are the same

Two class identifiers count as equal when they differ in the text of their generic arguments only,
and so do records and definitions that contain them. A host is faithful when this never happens to
what it supplies, nor to the definitions made of it; then everything that flows through the pipeline
is compared by true equality (`Host.IsFaithful.admission`). A host that spells every generic class
in one way is faithful (`Host.isFaithful_spelling`).
-/

namespace TemplateCodegen

open Incremental

/-! ## Records -/

/-- Declarations that count as equal have identifiers that count as equal. -/
theorem Declaration.identifier_beq {one other : Declaration} (h : (one == other) = true) :
    (one.identifier == other.identifier) = true := by
  change instBEqDeclaration.beq one other = true at h
  cases one
  cases other
  simp only [instBEqDeclaration.beq, Bool.and_eq_true] at h
  exact h.1

/-- Declarations that count as equal are the same when their identifiers are. -/
theorem Declaration.eq_of_beq {one other : Declaration} (h : (one == other) = true)
    (hidentifier : one.identifier = other.identifier) : one = other := by
  change instBEqDeclaration.beq one other = true at h
  cases one
  cases other
  simp only [instBEqDeclaration.beq, Bool.and_eq_true, beq_iff_eq] at h
  obtain ⟨_, rfl, rfl, rfl, rfl, rfl, rfl, rfl, rfl⟩ := h
  cases hidentifier
  rfl

/-- Definitions that count as equal have class identifiers that count as equal. -/
theorem Definition.parts_beq {one other : Definition} (h : (one == other) = true) :
    (one.identifier == other.identifier) = true ∧
      (one.attributeClass == other.attributeClass) = true := by
  change instBEqDefinition.beq one other = true at h
  cases one
  cases other
  simp only [instBEqDefinition.beq, Bool.and_eq_true] at h
  exact ⟨h.1, h.2.1⟩

/-- Definitions that count as equal are the same when their two class identifiers are. -/
theorem Definition.eq_of_beq {one other : Definition} (h : (one == other) = true)
    (hidentifier : one.identifier = other.identifier)
    (hattribute : one.attributeClass = other.attributeClass) : one = other := by
  change instBEqDefinition.beq one other = true at h
  cases one
  cases other
  simp only [instBEqDefinition.beq, Bool.and_eq_true, beq_iff_eq] at h
  obtain ⟨_, _, rfl, rfl, rfl, rfl, rfl, rfl, rfl⟩ := h
  cases hidentifier
  cases hattribute
  rfl

/-- The classes of targets that count as equal count as equal. -/
theorem UsageTarget.owner_beq {one other : UsageTarget} (h : (one == other) = true)
    {owner owner' : ClassIdentifier} (howner : one.owner? = some owner)
    (howner' : other.owner? = some owner') : (owner == owner') = true := by
  change instBEqUsageTarget.beq one other = true at h
  cases one <;> cases other <;> cases howner <;> cases howner'
  · simp only [instBEqUsageTarget.beq, Bool.and_eq_true] at h
    exact h.1
  · cases h
  · cases h
  · exact h

/-- Targets that count as equal are the same when their classes are. -/
theorem UsageTarget.eq_of_beq {one other : UsageTarget} (h : (one == other) = true)
    (howner : ∀ owner owner', one.owner? = some owner → other.owner? = some owner' →
      owner = owner') : one = other := by
  change instBEqUsageTarget.beq one other = true at h
  cases one with
  | onMember owner member =>
    cases other with
    | onMember owner' member' =>
      simp only [instBEqUsageTarget.beq, Bool.and_eq_true, beq_iff_eq] at h
      rw [howner owner owner' rfl rfl, h.2]
    | onClass owner' => cases h
    | onAssembly => cases h
  | onClass owner =>
    cases other with
    | onMember owner' member' => cases h
    | onClass owner' => rw [howner owner owner' rfl rfl]
    | onAssembly => cases h
  | onAssembly =>
    cases other with
    | onMember owner' member' => cases h
    | onClass owner' => cases h
    | onAssembly => rfl

/-- Usages that count as equal have attributes and targets that count as equal. -/
theorem Usage.parts_beq {one other : Usage} (h : (one == other) = true) :
    (one.generator == other.generator) = true ∧ (one.target == other.target) = true := by
  change instBEqUsage.beq one other = true at h
  cases one
  cases other
  simp only [instBEqUsage.beq, Bool.and_eq_true] at h
  exact ⟨h.1, h.2.1⟩

/-- Usages that count as equal are the same when their attributes and their targets are. -/
theorem Usage.eq_of_beq {one other : Usage} (h : (one == other) = true)
    (hgenerator : one.generator = other.generator) (htarget : one.target = other.target) :
    one = other := by
  change instBEqUsage.beq one other = true at h
  cases one
  cases other
  simp only [instBEqUsage.beq, Bool.and_eq_true, beq_iff_eq] at h
  obtain ⟨_, _, rfl, rfl, rfl⟩ := h
  cases hgenerator
  cases htarget
  rfl

/-- Results that count as equal are the same when their values that count as equal are. -/
theorem Reported.eq_of_beq {α : Type} [BEq α] {one other : Reported α}
    (hvalue : ∀ value value', one.value = some value → other.value = some value' →
      (value == value') = true → value = value')
    (h : (one == other) = true) : one = other := by
  change instBEqReported.beq one other = true at h
  obtain ⟨value, diagnostics⟩ := one
  obtain ⟨value', diagnostics'⟩ := other
  simp only [instBEqReported.beq, Bool.and_eq_true, beq_iff_eq] at h
  obtain ⟨hbeq, rfl⟩ := h
  cases value with
  | none =>
    cases value' with
    | none => rfl
    | some value' => cases hbeq
  | some value =>
    cases value' with
    | none => cases hbeq
    | some value' => rw [hvalue value value' rfl rfl hbeq]

/-! ## Contexts of targets -/

/-- The names of the target's class stand in every context of a usage of it. -/
theorem insertTarget_names (context : Context) {target : UsageTarget} {owner : ClassIdentifier}
    (h : target.owner? = some owner) :
    (insertTarget context target).get? "ClassName" = some (.text owner.className) ∧
      (insertTarget context target).get? "ClassNamespace" = some (.text owner.namespaceName) := by
  have howner : (insertTarget.insertOwner context owner).get? "ClassName" =
        some (.text owner.className) ∧
      (insertTarget.insertOwner context owner).get? "ClassNamespace" =
        some (.text owner.namespaceName) := by
    unfold insertTarget.insertOwner
    constructor
    · simp [Context.get?_insertText]
    · simp [Context.get?_insertText]
  cases target with
  | onAssembly => cases h
  | onClass found =>
    cases h
    exact howner
  | onMember found member =>
    cases h
    have hskip : ∀ name : String, name ≠ "FieldName" → name ≠ "FieldNamePascal" →
        (insertTarget context (.onMember owner member)).get? name =
          (insertTarget.insertOwner context owner).get? name := by
      intro name hfield hpascal
      unfold insertTarget
      rw [Context.get?_insertText, if_neg hpascal, Context.get?_insertText, if_neg hfield]
    rw [hskip _ (by decide) (by decide), hskip _ (by decide) (by decide)]
    exact howner

/-- Targets that count as equal are the same when they stand in the same context. -/
theorem UsageTarget.eq_of_context {one other : UsageTarget} (h : (one == other) = true)
    {context context' : Context}
    (hcontext : insertTarget context one = insertTarget context' other) : one = other := by
  refine UsageTarget.eq_of_beq h fun owner owner' howner howner' => ?_
  obtain ⟨hname, hspace⟩ := insertTarget_names context howner
  obtain ⟨hname', hspace'⟩ := insertTarget_names context' howner'
  rw [hcontext] at hname hspace
  have hclass := hname.symm.trans hname'
  have hnamespace := hspace.symm.trans hspace'
  simp only [Option.some.injEq, Value.text.injEq] at hclass hnamespace
  exact ClassIdentifier.eq_of_names hnamespace hclass

/-- Bound usages that count as equal are the same when their definitions and targets are. -/
theorem BoundUsage.eq_of_beq {one other : BoundUsage} (h : (one == other) = true)
    (hdefinition : (one.definition == other.definition) = true → one.definition = other.definition)
    (htarget : (one.target == other.target) = true → one.context = other.context →
      one.target = other.target) : one = other := by
  change instBEqBoundUsage.beq one other = true at h
  obtain ⟨definition, target, context, location⟩ := one
  obtain ⟨definition', target', context', location'⟩ := other
  simp only [instBEqBoundUsage.beq, Bool.and_eq_true, beq_iff_eq] at h
  obtain ⟨hsame, hequal, rfl, rfl⟩ := h
  obtain rfl := hdefinition hsame
  obtain rfl := htarget hequal rfl
  rfl

/-! ## Hosts -/

/-- Records that the host may supply, and definitions that are made of them, are the same when they
count as equal. -/
structure Host.IsFaithful (host : Host) : Prop where
  /-- Equal declarations are the same. -/
  declaration : ∀ one other, host.declaration one → host.declaration other →
    (one == other) = true → one = other
  /-- Equal usages are the same. -/
  usage : ∀ one other, host.usage one → host.usage other → (one == other) = true → one = other
  /-- Equal definitions are the same. -/
  definition : ∀ one other, host.Defines one → host.Defines other →
    (one == other) = true → one = other

namespace Host.IsFaithful

variable {host : Host}

/-- Equal bound usages are the same: their contexts spell the classes of their targets out. -/
theorem boundUsage (h : host.IsFaithful) {one other : BoundUsage} (hone : host.Binds one)
    (hother : host.Binds other) (hbeq : (one == other) = true) : one = other := by
  obtain ⟨definition, usage, hdefines, _, hbound⟩ := hone
  obtain ⟨definition', usage', hdefines', _, hbound'⟩ := hother
  obtain rfl := bindTo_value hbound
  obtain rfl := bindTo_value hbound'
  exact BoundUsage.eq_of_beq hbeq (h.definition definition definition' hdefines hdefines')
    fun htarget hcontext => UsageTarget.eq_of_context htarget hcontext

/-- Everything that flows through the pipeline is compared by true equality. -/
theorem admission (h : host.IsFaithful) : host.admission.IsFaithful := by
  intro traffic one other hone hother hbeq
  cases traffic with
  | config => exact eq_of_beq (α := Config) hbeq
  | declaration => exact h.declaration one other hone hother hbeq
  | usage => exact h.usage one other hone hother hbeq
  | boundDeclaration =>
    exact Reported.eq_of_beq (fun value value' hvalue hvalue' =>
      h.definition value value' (hone value hvalue) (hother value' hvalue')) hbeq
  | definition => exact h.definition one other hone hother hbeq
  | claims =>
    exact Reported.eq_of_beq (fun values values' hvalues hvalues' =>
      eq_of_beq_items fun value hvalue value' hvalue' =>
        h.definition value value' (hone values hvalues value hvalue)
          (hother values' hvalues' value' hvalue')) hbeq
  | diagnostic => exact eq_of_beq (α := Diagnostic) hbeq
  | resolution =>
    cases one with
    | none =>
      cases other with
      | none => rfl
      | some binding' => cases hbeq
    | some binding =>
      cases other with
      | none => cases hbeq
      | some binding' =>
        exact congrArg some (Reported.eq_of_beq (fun value value' hvalue hvalue' =>
          h.boundUsage (hone binding rfl value hvalue) (hother binding' rfl value' hvalue')) hbeq)
  | binding =>
    exact Reported.eq_of_beq (fun value value' hvalue hvalue' =>
      h.boundUsage (hone value hvalue) (hother value' hvalue')) hbeq
  | boundUsage => exact h.boundUsage hone hother hbeq
  | multiplicity =>
    exact Reported.eq_of_beq (fun values values' hvalues hvalues' =>
      eq_of_beq_items fun value hvalue value' hvalue' =>
        h.boundUsage (hone values hvalues value hvalue)
          (hother values' hvalues' value' hvalue')) hbeq
  | rendered => exact eq_of_beq (α := RenderedUsage) hbeq
  | collected => exact eq_of_beq (α := CollectedOutputs) hbeq
  | artifact => exact eq_of_beq (α := Artifact) hbeq

end Host.IsFaithful

/-! ## Spellings -/

/-- The identifier has no generic arguments, or is spelled as a naming allows. -/
def ClassIdentifier.IsSpelled (names : ClassIdentifier → Prop) (identifier : ClassIdentifier) :
    Prop :=
  identifier.genericArity = 0 ∨ names identifier

/-- The naming spells every class in one way. -/
def IsUnambiguous (names : ClassIdentifier → Prop) : Prop :=
  ∀ one other, names one → names other → (one == other) = true → one = other

/-- Equal identifiers are the same when an unambiguous naming spells them. -/
theorem IsUnambiguous.eq_of_beq {names : ClassIdentifier → Prop} (h : IsUnambiguous names)
    {one other : ClassIdentifier} (hone : one.IsSpelled names) (hother : other.IsSpelled names)
    (hbeq : (one == other) = true) : one = other := by
  have hsame := ClassIdentifier.isSameClass_of_beq hbeq
  rcases hone with hzero | hone
  · exact ClassIdentifier.eq_of_isSameClass_of_genericArity hsame hzero
  · rcases hother with hzero | hother
    · have hback := ClassIdentifier.isSameClass_symm hsame
      exact (ClassIdentifier.eq_of_isSameClass_of_genericArity hback hzero).symm
    · exact h one other hone hother hbeq

/-- A host that may supply some configurations, and all declarations and usages whose classes are
spelled as a naming allows, the attribute classes that those configurations give included. -/
def Host.spelling (configs : Config → Prop) (names : ClassIdentifier → Prop) : Host where
  config := configs
  declaration declaration := declaration.identifier.IsSpelled names ∧
    ∀ config, configs config → (declaration.attributeClass config).IsSpelled names
  usage usage := usage.generator.IsSpelled names ∧
    ∀ owner, usage.target.owner? = some owner → owner.IsSpelled names

/-- A host that spells every class in one way is faithful. -/
theorem Host.isFaithful_spelling {configs : Config → Prop} {names : ClassIdentifier → Prop}
    (h : IsUnambiguous names) : (Host.spelling configs names).IsFaithful where
  declaration one other hone hother hbeq :=
    Declaration.eq_of_beq hbeq (h.eq_of_beq hone.1 hother.1 (Declaration.identifier_beq hbeq))
  usage one other hone hother hbeq := by
    obtain ⟨hgenerator, htarget⟩ := Usage.parts_beq hbeq
    refine Usage.eq_of_beq hbeq (h.eq_of_beq hone.1 hother.1 hgenerator) ?_
    refine UsageTarget.eq_of_beq htarget fun owner owner' howner howner' => ?_
    exact h.eq_of_beq (hone.2 owner howner) (hother.2 owner' howner')
      (UsageTarget.owner_beq htarget howner howner')
  definition one other hone hother hbeq := by
    obtain ⟨declaration, config, hdeclaration, hconfig, hone⟩ := hone
    obtain ⟨declaration', config', hdeclaration', hconfig', hother⟩ := hother
    obtain ⟨hidentifier, hattribute, -⟩ := bindDefinition_value hone
    obtain ⟨hidentifier', hattribute', -⟩ := bindDefinition_value hother
    obtain ⟨hsame, hclass⟩ := Definition.parts_beq hbeq
    refine Definition.eq_of_beq hbeq ?_ ?_
    · rw [hidentifier, hidentifier'] at hsame ⊢
      exact h.eq_of_beq hdeclaration.1 hdeclaration'.1 hsame
    · rw [hattribute, hattribute'] at hclass ⊢
      exact h.eq_of_beq (hdeclaration.2 config hconfig) (hdeclaration'.2 config' hconfig') hclass

end TemplateCodegen
