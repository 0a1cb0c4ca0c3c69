import TemplateCodegen.ClassIdentifier.Basic

/-!
# Attribute names of classes

A generator is applied through an attribute class whose name is derived from the generator's: the
suffix `Generator`, in any case, gives way to `Attribute`. In writing an attribute its own suffix
may be left out. Every change of the base name leaves the generic argument list where it was.
-/

namespace TemplateCodegen.ClassIdentifier

/-- The suffix of attribute classes. -/
def attributeSuffix : List Char := "Attribute".toList

/-- The suffix of generator classes. -/
def generatorSuffix : List Char := "Generator".toList

/-- The characters in front of a suffix, when the text ends in it up to the identification of
characters by `fold`. -/
def stripEnd? (fold : Char → Char) (suffix cs : List Char) : Option (List Char) :=
  let cut := cs.length - suffix.length
  if suffix.length ≤ cs.length ∧ (cs.drop cut).map fold = suffix.map fold then some (cs.take cut)
  else none

/-- The same class under a new base name. -/
def withBase (identifier : ClassIdentifier) (base : List Char) : ClassIdentifier :=
  ⟨identifier.namespaceName, String.ofList (base ++ suffixOf identifier.className.toList)⟩

/-- The class with `Attribute` behind its base name, unless the base name ends in it already. -/
def withAttributeSuffix (identifier : ClassIdentifier) : ClassIdentifier :=
  let base := baseOf identifier.className.toList
  match stripEnd? id attributeSuffix base with
  | some _ => identifier
  | none => identifier.withBase (base ++ attributeSuffix)

/-- The base name in front of a final `Generator` in any case of its letters. -/
def generatorStem? (identifier : ClassIdentifier) : Option (List Char) :=
  stripEnd? Char.toLower generatorSuffix (baseOf identifier.className.toList)

/-- Whether the base name ends in `Generator` in any case. -/
def hasGeneratorSuffix (identifier : ClassIdentifier) : Bool :=
  identifier.generatorStem?.isSome

/-- The attribute class of a generator: `Attribute` in the place of a final `Generator`, or behind a
base name that has none. -/
def attributeForGenerator (identifier : ClassIdentifier) : ClassIdentifier :=
  let stem := identifier.generatorStem?.getD (baseOf identifier.className.toList)
  identifier.withBase (stem ++ attributeSuffix)

/-- The class written without its `Attribute`, when it ends in it and something stands in front. -/
def withoutAttributeSuffix? (identifier : ClassIdentifier) : Option ClassIdentifier :=
  match stripEnd? id attributeSuffix (baseOf identifier.className.toList) with
  | some [] => none
  | some stem => some (identifier.withBase stem)
  | none => none

/-- A stem and an exactly equal suffix are the text. -/
theorem stripEnd?_id_append {suffix cs stem : List Char} (h : stripEnd? id suffix cs = some stem) :
    stem ++ suffix = cs := by
  unfold stripEnd? at h
  simp only [List.map_id] at h
  split at h
  · rename_i hcond
    obtain rfl : cs.take (cs.length - suffix.length) = stem := by simpa using h
    have hwhole := List.take_append_drop (cs.length - suffix.length) cs
    rwa [hcond.2] at hwhole
  · simp at h

/-- A new base name keeps the namespace. -/
theorem withBase_namespaceName (identifier : ClassIdentifier) (base : List Char) :
    (identifier.withBase base).namespaceName = identifier.namespaceName := rfl

end TemplateCodegen.ClassIdentifier
