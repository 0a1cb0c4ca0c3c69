import TemplateCodegen.Usage.Basic

/-!
# Repeated usages

A generator that does not allow it is applied to a target only once: the first usage is kept, later
ones on the same target are reported and dropped.
-/

namespace TemplateCodegen

/-- Whether a usage repeats one that has been kept and may not do so. -/
def BoundUsage.isForbiddenRepeat (kept : List BoundUsage) (usage : BoundUsage) : Bool :=
  !usage.definition.allowMultiple && kept.any fun earlier =>
    earlier.definition.attributeClass == usage.definition.attributeClass &&
      earlier.target == usage.target

/-- Go through the usages behind those kept so far. -/
def enforceFrom (kept : List BoundUsage) : List BoundUsage → Reported (List BoundUsage)
  | [] => ⟨some kept, []⟩
  | usage :: rest =>
    if usage.isForbiddenRepeat kept then
      let later := enforceFrom kept rest
      let finding := Finding.multipleNotAllowed usage.definition.attributeClass.fullName
        usage.target.shown
      { later with diagnostics := finding.located usage.location :: later.diagnostics }
    else enforceFrom (kept ++ [usage]) rest

/-- Keep the first usage of a generator on a target, and later ones only where it allows them. -/
def enforceMultiplicity (usages : List BoundUsage) : Reported (List BoundUsage) :=
  enforceFrom [] usages

/-- Every usage is either kept or reported. -/
theorem enforceFrom_length (kept usages : List BoundUsage) :
    ((enforceFrom kept usages).value.getD []).length +
        (enforceFrom kept usages).diagnostics.length =
      kept.length + usages.length := by
  induction usages generalizing kept with
  | nil => simp [enforceFrom]
  | cons usage rest ih =>
    unfold enforceFrom
    split
    · have h := ih kept
      simp only [List.length_cons]
      omega
    · have h := ih (kept ++ [usage])
      simp only [List.length_append, List.length_cons, List.length_nil] at h
      simp only [List.length_cons]
      omega

end TemplateCodegen
