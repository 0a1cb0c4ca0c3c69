import TemplateCodegen.Proofs.Definition.Deduplication
import TemplateCodegen.Proofs.Pipeline.Isolation

/-!
# Generators under their own names

A kept generator is applied through its attribute class. Its name may come from the generator's, or
be given without a look at its form, and an attribute may be written without its suffix, so a
written name may be read as another class or be taken for the short form of an earlier generator.
Main statement: a usage with the full name of a kept generator's attribute class is bound to that
generator exactly when the name is writable and is not the short form of an earlier attribute class
(`exists_answers_iff`).
-/

namespace TemplateCodegen

open ClassIdentifier

/-- The attribute class of a declaration has a name of attribute classes. -/
theorem Declaration.isAttribute_attributeClass (declaration : Declaration) (config : Config) :
    (declaration.attributeClass config).IsAttribute := by
  have hderived := isAttribute_attributeForGenerator declaration.identifier
  unfold attributeClass
  split
  · exact hderived
  · dsimp only
    split
    · exact hderived
    · exact isAttribute_withAttributeSuffix _

/-! ### Claims -/

/-- The definition claims the class of the other one, written without its suffix. -/
def Definition.Shadows (earlier later : Definition) : Prop :=
  ∃ short, earlier.attributeClass.withoutAttributeSuffix? = some short ∧
    short.isSameClass later.attributeClass = true

/-- The full name of the definition's attribute class is read as an identifier, and whatever is
written with that is bound to the definition. -/
structure Definition.Answers (definition : Definition) (kept : List Definition)
    (written : ClassIdentifier) : Prop where
  /-- The full name is read. -/
  read : parse definition.attributeClass.fullName = .ok written
  /-- The search for the identifier ends at the definition. -/
  found : (kept.find? fun other => other.isNamedBy written) = some definition
  /-- A usage with the identifier is bound to the definition. -/
  binds : ∀ usage : Usage, usage.generator = written →
    bindUsage kept usage = some (bindTo definition usage)

/-- A definition that is found answers. -/
theorem Definition.Answers.of_found {definition : Definition} {kept : List Definition}
    {written : ClassIdentifier} (hread : parse definition.attributeClass.fullName = .ok written)
    (hfound : (kept.find? fun other => other.isNamedBy written) = some definition) :
    definition.Answers kept written where
  read := hread
  found := hfound
  binds := by
    rintro usage rfl
    rw [bindUsage, hfound, Option.map_some]

namespace Manifest

variable {manifest : Manifest} {config : Config}

/-- The kept definitions of a manifest have different attribute classes. -/
theorem attributesDiffer (manifest : Manifest) (config : Config) :
    AttributesDiffer (manifest.keptDefinitions config) := by
  obtain ⟨kept, hkept⟩ := Option.isSome_iff_exists.1 (dedupeFrom_value_isSome []
    (Reported.valuesOf (manifest.declared config) ++
      Reported.valuesOf (manifest.referenced config)))
  have hdiffer := AttributesDiffer.dedupeFrom List.Pairwise.nil hkept
  unfold keptDefinitions claims dedupeDefinitions
  rw [hkept]
  exact hdiffer

/-- A kept definition was bound from a declaration of the manifest. -/
theorem exists_declaration {definition : Definition}
    (h : definition ∈ manifest.keptDefinitions config) :
    ∃ declaration ∈ manifest.definitions ++ manifest.supplementary,
      (bindDefinition declaration config).value = some definition := by
  have hmem : definition ∈ Reported.valuesOf (manifest.declared config) ++
      Reported.valuesOf (manifest.referenced config) := by
    refine forall_mem_getD (fun found hfound item hitem => ?_) definition h
    exact (mem_of_dedupeFrom hfound hitem).resolve_left List.not_mem_nil
  rw [Manifest.declared, Manifest.referenced, Reported.valuesOf, Reported.valuesOf,
    ← List.filterMap_append, ← bindAll_append] at hmem
  obtain ⟨result, hresult, hvalue⟩ := List.mem_filterMap.1 hmem
  obtain ⟨declaration, hdeclaration, rfl⟩ := List.mem_map.1 hresult
  exact ⟨declaration, hdeclaration, hvalue⟩

/-- Every kept definition has the name of an attribute class. -/
theorem isAttribute {definition : Definition}
    (h : definition ∈ manifest.keptDefinitions config) : definition.attributeClass.IsAttribute := by
  obtain ⟨declaration, -, hbound⟩ := exists_declaration h
  rw [(bindDefinition_value hbound).2.1]
  exact declaration.isAttribute_attributeClass config

end Manifest

namespace Definition

variable {definition earlier : Definition} {written : ClassIdentifier}

/-- The full name of an attribute class names it exactly when it is read as the class. -/
theorem isNamedBy_of_parse (h : parse definition.attributeClass.fullName = .ok written) :
    definition.isNamedBy written = definition.attributeClass.isSameClass written := by
  unfold isNamedBy
  cases hshort : definition.attributeClass.withoutAttributeSuffix? with
  | none => exact Bool.or_false _
  | some short =>
    dsimp only
    rw [not_isSameClass_of_parse hshort h, Bool.or_false]

/-- A name of one attribute class names another one exactly when it is its short form. -/
theorem isNamedBy_iff_shadows (hsame : definition.attributeClass.isSameClass written = true)
    (hdiffer : earlier.attributeClass.isSameClass definition.attributeClass = false) :
    earlier.isNamedBy written = true ↔ earlier.Shadows definition := by
  have hnot : earlier.attributeClass.isSameClass written = false := by
    by_contra hclaimed
    rw [Bool.not_eq_false] at hclaimed
    rw [isSameClass_trans hclaimed (isSameClass_symm hsame)] at hdiffer
    cases hdiffer
  unfold isNamedBy Shadows
  rw [hnot, Bool.false_or]
  cases earlier.attributeClass.withoutAttributeSuffix? with
  | none => simp
  | some short =>
    constructor
    · intro hshort
      exact ⟨short, rfl, isSameClass_trans hshort (isSameClass_symm hsame)⟩
    · rintro ⟨short', hshort', hclaimed⟩
      obtain rfl := Option.some.inj hshort'
      exact isSameClass_trans hclaimed hsame

end Definition

/-- A usage with the full name of a kept generator's attribute class is bound to that generator
exactly when the name is read as that class and no generator in front of it has a class that is
written so without its suffix. -/
theorem exists_answers_iff {manifest : Manifest} {config : Config}
    {before after : List Definition} {definition : Definition}
    (hkept : manifest.keptDefinitions config = before ++ definition :: after) :
    (∃ written, definition.Answers (manifest.keptDefinitions config) written) ↔
      definition.attributeClass.IsWritable ∧ ∀ earlier ∈ before, ¬ earlier.Shadows definition := by
  have hattribute : definition.attributeClass.IsAttribute :=
    Manifest.isAttribute (hkept ▸ List.mem_append_right _ List.mem_cons_self)
  have hdiffer : ∀ earlier ∈ before,
      earlier.attributeClass.isSameClass definition.attributeClass = false := by
    have hall := manifest.attributesDiffer config
    rw [hkept] at hall
    exact fun earlier hmem =>
      (List.pairwise_append.1 hall).2.2 earlier hmem definition List.mem_cons_self
  rw [hkept, ← exists_parse_fullName_iff hattribute.exists_last]
  constructor
  · rintro ⟨written, hread, hfound, -⟩
    have hnamed := List.find?_some hfound
    beta_reduce at hnamed
    rw [Definition.isNamedBy_of_parse hread] at hnamed
    refine ⟨⟨written, hread, hnamed⟩, fun earlier hmem hshadows => ?_⟩
    have hclaims := (Definition.isNamedBy_iff_shadows hnamed (hdiffer earlier hmem)).2 hshadows
    rw [List.find?_append] at hfound
    cases hfirst : before.find? fun other => other.isNamedBy written with
    | none => exact List.find?_eq_none.1 hfirst earlier hmem hclaims
    | some first =>
      rw [hfirst, Option.some_or] at hfound
      have hdistinct := hdiffer first (List.mem_of_find?_eq_some hfirst)
      rw [Option.some.inj hfound, isSameClass_refl] at hdistinct
      cases hdistinct
  · rintro ⟨⟨written, hread, hsame⟩, hfree⟩
    refine ⟨written, .of_found hread ?_⟩
    have hnone : (before.find? fun other => other.isNamedBy written) = none := by
      refine List.find?_eq_none.2 fun earlier hmem hclaims => hfree earlier hmem ?_
      exact (Definition.isNamedBy_iff_shadows hsame (hdiffer earlier hmem)).1 hclaims
    rw [List.find?_append, hnone, Option.none_or, List.find?_cons_of_pos]
    rw [Definition.isNamedBy_of_parse hread]
    exact hsame

/-- A generator of classes with one template. -/
def auditor (className : String) : Declaration :=
  (Declaration.ofIdentifier ⟨"Gen", className⟩ .onClass).addMember
    (.ofTemplate "Body" .template "Audited.")

/-- Two generators of which the second has the longer name. -/
def audited : Manifest where
  definitions := [auditor "AuditGenerator", auditor "AuditAttributeGenerator"]

/-- The generator with the longer name answers when it is the second. -/
theorem audited_answers : ∃ first second, audited.keptDefinitions {} = [first] ++ second :: [] ∧
    second.attributeClass = ⟨"Stencil", "AuditAttributeAttribute"⟩ ∧
    ∃ written, second.Answers (audited.keptDefinitions {}) written := by
  have hnames : (audited.keptDefinitions {}).map Definition.attributeClass =
      [⟨"Stencil", "AuditAttribute"⟩, ⟨"Stencil", "AuditAttributeAttribute"⟩] := rfl
  obtain ⟨first, rest, hkept, hfirst, hrest⟩ := List.map_eq_cons_iff.1 hnames
  obtain ⟨second, more, rfl, hsecond, hmore⟩ := List.map_eq_cons_iff.1 hrest
  obtain rfl := List.map_eq_nil_iff.1 hmore
  have hsplit : audited.keptDefinitions {} = [first] ++ second :: [] := hkept
  have hwritable : second.attributeClass.IsWritable := by
    rw [hsecond]
    refine ⟨fun c hc => ?_, rfl, rfl, rfl⟩
    obtain rfl : 'S' = c := Option.some.inj hc
    decide
  have hfree : ∀ earlier ∈ [first], ¬ earlier.Shadows second := by
    intro earlier hmem
    rw [List.mem_singleton.1 hmem]
    rintro ⟨short, hshort, hsame⟩
    rw [hfirst] at hshort
    obtain rfl : ⟨"Stencil", "Audit"⟩ = short := Option.some.inj hshort
    rw [hsecond] at hsame
    exact absurd hsame (by decide)
  exact ⟨first, second, hsplit, hsecond, (exists_answers_iff hsplit).2 ⟨hwritable, hfree⟩⟩

/-- Nothing is reported about the declarations, and yet a kept generator does not answer. -/
def Manifest.HidesGenerator (manifest : Manifest) : Prop :=
  manifest.found {} = [] ∧ ∃ definition ∈ manifest.keptDefinitions {},
    ¬ ∃ written, definition.Answers (manifest.keptDefinitions {}) written

/-- The generator with the longer name first. -/
def misnamed : Manifest where
  definitions := [auditor "AuditAttributeGenerator", auditor "AuditGenerator"]

/-- A generator with a name of its own for its attribute. -/
def renamed (name : String) : Manifest where
  definitions := [(auditor "AuditGenerator").withNameOverride { name }]

/-- The short form of a longer name that was claimed before is taken for that; a name with a dot is
read in another namespace; a name with an open bracket is not read at all. -/
theorem misnamed_hidesGenerator : misnamed.HidesGenerator ∧
    (renamed "Acme.Audit").HidesGenerator ∧ (renamed "Audit<T").HidesGenerator := by
  refine ⟨⟨by decide +kernel, ?_⟩, ⟨by decide +kernel, ?_⟩, ⟨by decide +kernel, ?_⟩⟩
  · have hnames : (misnamed.keptDefinitions {}).map Definition.attributeClass =
        [⟨"Stencil", "AuditAttributeAttribute"⟩, ⟨"Stencil", "AuditAttribute"⟩] := rfl
    obtain ⟨first, rest, hkept, hfirst, hrest⟩ := List.map_eq_cons_iff.1 hnames
    obtain ⟨second, more, rfl, hsecond, -⟩ := List.map_eq_cons_iff.1 hrest
    refine ⟨second, by rw [hkept]; simp, ?_⟩
    rintro ⟨written, hread, hfound, -⟩
    rw [hsecond] at hread
    obtain rfl : ⟨"Stencil", "AuditAttribute"⟩ = written := Except.ok.inj hread
    have hclaimed : first.isNamedBy ⟨"Stencil", "AuditAttribute"⟩ = true := by
      rw [Definition.isNamedBy, hfirst]
      rfl
    rw [hkept, List.find?_cons, hclaimed] at hfound
    rw [Option.some.inj hfound, hsecond] at hfirst
    have hclass := congrArg ClassIdentifier.className hfirst
    exact absurd hclass (by decide)
  · have hnames : ((renamed "Acme.Audit").keptDefinitions {}).map Definition.attributeClass =
        [⟨"Stencil", "Acme.AuditAttribute"⟩] := rfl
    obtain ⟨only, rest, hkept, honly, -⟩ := List.map_eq_cons_iff.1 hnames
    refine ⟨only, by rw [hkept]; simp, ?_⟩
    rintro ⟨written, hread, hfound, -⟩
    rw [honly] at hread
    obtain rfl : ⟨"Stencil.Acme", "AuditAttribute"⟩ = written := Except.ok.inj hread
    have hnamed := List.find?_some hfound
    rw [Definition.isNamedBy, honly] at hnamed
    cases hnamed
  · have hnames : ((renamed "Audit<T").keptDefinitions {}).map Definition.attributeClass =
        [⟨"Stencil", "AuditAttribute<T"⟩] := rfl
    obtain ⟨only, rest, hkept, honly, -⟩ := List.map_eq_cons_iff.1 hnames
    refine ⟨only, by rw [hkept]; simp, ?_⟩
    rintro ⟨written, hread, -, -⟩
    rw [honly] at hread
    cases hread

end TemplateCodegen
