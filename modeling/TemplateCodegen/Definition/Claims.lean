import TemplateCodegen.Definition.Basic

/-!
# Claims to attribute classes

Every attribute class belongs to the first definition that declares it. Later definitions of the
same class are reported and dropped, so a written attribute resolves to the same definition before
and after.
-/

namespace TemplateCodegen

/-- The first definition that has claimed the attribute class. -/
def claimant? (kept : List Definition) (attributeClass : ClassIdentifier) : Option Definition :=
  kept.find? fun definition => definition.attributeClass.isSameClass attributeClass

/-- Go through the definitions behind those kept so far: keep one whose attribute class is
unclaimed, report any other. -/
def dedupeFrom (kept : List Definition) : List Definition → Reported (List Definition)
  | [] => ⟨some kept, []⟩
  | definition :: rest =>
    match claimant? kept definition.attributeClass with
    | some first =>
      let later := dedupeFrom kept rest
      let finding := Finding.duplicateGenerator definition.attributeClass.fullName
        definition.identifier.fullName first.identifier.fullName
      { later with diagnostics := finding.located definition.location :: later.diagnostics }
    | none => dedupeFrom (kept ++ [definition]) rest

/-- Keep the first definition of every attribute class and report the others. -/
def dedupeDefinitions (definitions : List Definition) : Reported (List Definition) :=
  dedupeFrom [] definitions

/-- There is always a result. -/
theorem dedupeFrom_value_isSome (kept definitions : List Definition) :
    (dedupeFrom kept definitions).value.isSome = true := by
  induction definitions generalizing kept with
  | nil => rfl
  | cons definition rest ih =>
    unfold dedupeFrom
    split
    · exact ih kept
    · exact ih (kept ++ [definition])

end TemplateCodegen
