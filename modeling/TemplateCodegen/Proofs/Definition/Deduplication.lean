import TemplateCodegen.Definition.Claims
import TemplateCodegen.Proofs.ClassIdentifier.Attribute
import TemplateCodegen.Usage.Binding

/-!
# Dropping claimed definitions

A search through definitions that asks for nothing but the attribute class cannot tell a definition
from an earlier one of the same class, so leaving it out changes no answer. The search for a
claimant is such a search, and so is the one for the definition that a written attribute names:
leaving out the suffix of a name keeps the number of generic arguments. Main statement: what is kept
and what is reported is said by the definitions in front of each one, dropping twice is dropping
once, and every usage is bound as before (`dedupeDefinitions_partitions`).
-/

namespace TemplateCodegen

open ClassIdentifier

/-- Whether a written attribute names a definition is a question about the two classes. -/
theorem Definition.isNamedBy_congr {one other : Definition} {written rewritten : ClassIdentifier}
    (h : one.attributeClass.isSameClass other.attributeClass = true)
    (hwritten : written.isSameClass rewritten = true) :
    one.isNamedBy written = other.isNamedBy rewritten := by
  have hshort := withoutAttributeSuffix?_congr h
  unfold isNamedBy
  rw [isSameClass_congr h hwritten]
  generalize one.attributeClass.withoutAttributeSuffix? = short at hshort ⊢
  generalize other.attributeClass.withoutAttributeSuffix? = short' at hshort ⊢
  cases hshort with
  | none => rfl
  | some hsame =>
    dsimp only
    rw [isSameClass_congr hsame hwritten]

/-! ### Searches that ask for the class -/

/-- The question has one answer for all definitions of an attribute class. -/
def AsksForClass (asked : Definition → Bool) : Prop :=
  ∀ one other : Definition, one.attributeClass.isSameClass other.attributeClass = true →
    asked one = asked other

/-- Whose attribute class it is asks for the class. -/
theorem asksForClass_isSameClass (attributeClass : ClassIdentifier) :
    AsksForClass fun definition => definition.attributeClass.isSameClass attributeClass :=
  fun _ _ h => isSameClass_congr h (isSameClass_refl attributeClass)

/-- Who is named by a written attribute asks for the class. -/
theorem asksForClass_isNamedBy (written : ClassIdentifier) :
    AsksForClass fun definition => definition.isNamedBy written :=
  fun _ _ h => Definition.isNamedBy_congr h (isSameClass_refl written)

/-- Every search for an attribute class ends in both lists at the same definition. -/
def ResolveAlike (kept definitions : List Definition) : Prop :=
  ∀ asked, AsksForClass asked → kept.find? asked = definitions.find? asked

namespace ResolveAlike

variable {kept definitions : List Definition}

/-- Both lists have the same claimants. -/
theorem claimant?_eq (h : ResolveAlike kept definitions) (attributeClass : ClassIdentifier) :
    claimant? kept attributeClass = claimant? definitions attributeClass :=
  h _ (asksForClass_isSameClass attributeClass)

/-- Both lists bind every usage alike. -/
theorem bindUsage_eq (h : ResolveAlike kept definitions) (usage : Usage) :
    bindUsage kept usage = bindUsage definitions usage :=
  congrArg (Option.map fun definition => bindTo definition usage)
    (h _ (asksForClass_isNamedBy usage.generator))

/-- The same definition may be put behind both. -/
theorem concat (h : ResolveAlike kept definitions) (definition : Definition) :
    ResolveAlike (kept ++ [definition]) (definitions ++ [definition]) := by
  intro asked hasked
  rw [List.find?_append, List.find?_append, h asked hasked]

/-- A definition of a claimed class may be left out: whatever finds it finds the claimant first. -/
theorem concat_claimed (h : ResolveAlike kept definitions) {definition first : Definition}
    (hfirst : claimant? kept definition.attributeClass = some first) :
    ResolveAlike kept (definitions ++ [definition]) := by
  intro asked hasked
  have hclass := List.find?_some hfirst
  have hmem := List.mem_of_find?_eq_some hfirst
  have hanswer : asked first = asked definition := hasked first definition hclass
  rw [List.find?_append, ← h asked hasked]
  cases hfound : kept.find? asked with
  | some found => rfl
  | none =>
    have hno := List.find?_eq_none.1 hfound first hmem
    rw [hanswer] at hno
    rw [List.find?_cons_of_neg hno]
    rfl

end ResolveAlike

/-! ### Different attribute classes -/

/-- No two definitions have one attribute class. -/
def AttributesDiffer (definitions : List Definition) : Prop :=
  definitions.Pairwise fun one other =>
    one.attributeClass.isSameClass other.attributeClass = false

/-- Where no definition has claimed the class of another one, that may be kept. -/
theorem AttributesDiffer.concat {kept : List Definition} {definition : Definition}
    (h : AttributesDiffer kept) (hnone : claimant? kept definition.attributeClass = none) :
    AttributesDiffer (kept ++ [definition]) := by
  refine List.pairwise_append.2 ⟨h, List.pairwise_singleton _ _, fun one hone other hother => ?_⟩
  rw [List.mem_singleton.1 hother]
  exact Bool.eq_false_iff.2 (List.find?_eq_none.1 hnone one hone)

/-- Definitions that are kept have different attribute classes. -/
theorem AttributesDiffer.dedupeFrom {kept definitions found : List Definition}
    (h : AttributesDiffer kept)
    (hfound : (TemplateCodegen.dedupeFrom kept definitions).value = some found) :
    AttributesDiffer found := by
  induction definitions generalizing kept with
  | nil =>
    obtain rfl : kept = found := Option.some.inj hfound
    exact h
  | cons definition rest ih =>
    rw [TemplateCodegen.dedupeFrom] at hfound
    split at hfound
    · exact ih h hfound
    · rename_i hnone
      exact ih (h.concat hnone) hfound

/-! ### What is dropped -/

/-- A definition and everything in front of it. -/
structure Claim where
  /-- The definitions in front, kept or not. -/
  earlier : List Definition
  /-- The definition itself. -/
  definition : Definition

namespace Claim

/-- The first of the definitions in front that has the same attribute class. -/
def first? (claim : Claim) : Option Definition :=
  claim.earlier.find? fun other =>
    other.attributeClass.isSameClass claim.definition.attributeClass

/-- The warning about a definition whose attribute class an earlier one declares. -/
def warning (claim : Claim) (first : Definition) : Diagnostic where
  code := .duplicateGenerator
  severity := .warning
  message := "'" ++ claim.definition.attributeClass.fullName ++ "' from '" ++
    claim.definition.identifier.fullName ++ "' is already declared by '" ++
    first.identifier.fullName ++ "'; this declaration is ignored"
  location := claim.definition.location
  snippet := none

/-- The warning about a definition, when one in front of it has its attribute class. -/
def warning? (claim : Claim) : Option Diagnostic := claim.first?.map claim.warning

/-- The definitions of a list, each with everything in front of it. -/
def allBehind (earlier : List Definition) : List Definition → List Claim
  | [] => []
  | definition :: rest => ⟨earlier, definition⟩ :: allBehind (earlier ++ [definition]) rest

/-- The definitions whose attribute class none in front of them has. -/
def fresh (claims : List Claim) : List Definition :=
  (claims.filter fun claim => claim.first?.isNone).map Claim.definition

variable {claim : Claim}

/-- A claimed definition is not kept. -/
theorem fresh_cons_of_claimed {first : Definition} (h : claim.first? = some first)
    (claims : List Claim) : fresh (claim :: claims) = fresh claims := by
  unfold fresh
  rw [List.filter_cons_of_neg (by rw [h]; exact Bool.false_ne_true)]

/-- A definition of a free class is kept. -/
theorem fresh_cons_of_free (h : claim.first? = none) (claims : List Claim) :
    fresh (claim :: claims) = claim.definition :: fresh claims := by
  unfold fresh
  rw [List.filter_cons_of_pos (by rw [h]; rfl), List.map_cons]

/-- There is a warning about a claimed definition. -/
theorem warning?_of_claimed {first : Definition} (h : claim.first? = some first) :
    claim.warning? = some (claim.warning first) := by
  rw [warning?, h, Option.map_some]

/-- There is no warning about a definition of a free class. -/
theorem warning?_of_free (h : claim.first? = none) : claim.warning? = none := by
  rw [warning?, h, Option.map_none]

end Claim

/-- One pass keeps, behind what it has kept before, the definitions without an earlier one of their
class and warns about the others; searches go on as before. -/
theorem dedupeFrom_spec {kept earlier : List Definition} (h : ResolveAlike kept earlier)
    (definitions : List Definition) :
    dedupeFrom kept definitions =
        ⟨some (kept ++ Claim.fresh (Claim.allBehind earlier definitions)),
          (Claim.allBehind earlier definitions).filterMap Claim.warning?⟩ ∧
      ResolveAlike (kept ++ Claim.fresh (Claim.allBehind earlier definitions))
        (earlier ++ definitions) := by
  induction definitions generalizing kept earlier with
  | nil =>
    rw [Claim.allBehind, Claim.fresh, List.filter_nil, List.map_nil, List.append_nil,
      List.append_nil]
    exact ⟨rfl, h⟩
  | cons definition rest ih =>
    -- the claimant among the kept is the first of the class among all
    have hfirst : (⟨earlier, definition⟩ : Claim).first? =
        claimant? kept definition.attributeClass := (h.claimant?_eq _).symm
    rw [dedupeFrom, Claim.allBehind, List.append_cons earlier definition rest]
    cases hclaimed : claimant? kept definition.attributeClass with
    | some first =>
      rw [hclaimed] at hfirst
      obtain ⟨hrest, halike⟩ := ih (h.concat_claimed hclaimed)
      rw [Claim.fresh_cons_of_claimed hfirst,
        List.filterMap_cons_some (Claim.warning?_of_claimed hfirst), hrest]
      exact ⟨rfl, halike⟩
    | none =>
      rw [hclaimed] at hfirst
      obtain ⟨hrest, halike⟩ := ih (h.concat definition)
      rw [Claim.fresh_cons_of_free hfirst,
        List.filterMap_cons_none (Claim.warning?_of_free hfirst)]
      rw [List.append_assoc] at hrest halike
      exact ⟨hrest, halike⟩

/-- Definitions of different attribute classes are all kept. -/
theorem dedupeFrom_of_attributesDiffer {kept definitions : List Definition}
    (h : AttributesDiffer (kept ++ definitions)) :
    dedupeFrom kept definitions = ⟨some (kept ++ definitions), []⟩ := by
  induction definitions generalizing kept with
  | nil => rw [dedupeFrom, List.append_nil]
  | cons definition rest ih =>
    have hnone : claimant? kept definition.attributeClass = none := by
      refine List.find?_eq_none.2 fun one hone => ?_
      have hdiffer := (List.pairwise_append.1 h).2.2 one hone definition List.mem_cons_self
      rw [hdiffer]
      exact Bool.false_ne_true
    rw [List.append_cons] at h
    rw [dedupeFrom, hnone]
    dsimp only
    rw [ih h, ← List.append_cons]

/-- What one pass over a list of definitions does, said by the definitions in front of each one. -/
structure Partitions (definitions kept : List Definition) (warnings : List Diagnostic) : Prop where
  /-- Kept is, in order, what has no definition of its attribute class in front of it. -/
  kept_eq : kept = Claim.fresh (Claim.allBehind [] definitions)
  /-- There is one warning for each of the others, in order. -/
  warnings_eq : warnings = (Claim.allBehind [] definitions).filterMap Claim.warning?
  /-- The definition that a warning names is kept, and has the class among the kept as well. -/
  claimant : ∀ claim ∈ Claim.allBehind [] definitions, ∀ first, claim.first? = some first →
    first ∈ kept ∧ claimant? kept claim.definition.attributeClass = some first
  /-- Nothing is dropped from what was kept. -/
  idempotent : dedupeDefinitions kept = ⟨some kept, []⟩
  /-- Every usage is bound as before. -/
  binds : ∀ usage, bindUsage kept usage = bindUsage definitions usage

/-- A first definition of a class in front of another one is the first of the whole list. -/
theorem Claim.claimant?_of_first? {earlier definitions : List Definition} {claim : Claim}
    {first : Definition} (hclaim : claim ∈ Claim.allBehind earlier definitions)
    (hfirst : claim.first? = some first) :
    claimant? (earlier ++ definitions) claim.definition.attributeClass = some first := by
  induction definitions generalizing earlier with
  | nil => cases hclaim
  | cons definition rest ih =>
    rcases List.mem_cons.1 hclaim with rfl | hrest
    · have hfound : claimant? earlier definition.attributeClass = some first := hfirst
      unfold claimant? at hfound ⊢
      rw [List.find?_append, hfound, Option.some_or]
    · rw [List.append_cons]
      exact ih hrest

/-- Dropping claimed definitions keeps the first definition of every attribute class and warns of
the others; done again it drops nothing, and no usage notices. Whether a definition is named depends
on the classes of its attribute and of the written name only. -/
theorem dedupeDefinitions_partitions (definitions : List Definition) :
    (∃ kept, (dedupeDefinitions definitions).value = some kept ∧
      Partitions definitions kept (dedupeDefinitions definitions).diagnostics) ∧
    ∀ (one other : Definition) (written rewritten : ClassIdentifier),
      one.attributeClass.isSameClass other.attributeClass = true →
      written.isSameClass rewritten = true →
      one.isNamedBy written = other.isNamedBy rewritten := by
  have hnothing : ResolveAlike [] [] := fun _ _ => rfl
  obtain ⟨hpass, halike⟩ := dedupeFrom_spec hnothing definitions
  rw [List.nil_append, List.nil_append] at halike
  rw [List.nil_append] at hpass
  have hvalue := congrArg Reported.value hpass
  have hdiffer : AttributesDiffer (Claim.fresh (Claim.allBehind [] definitions)) :=
    AttributesDiffer.dedupeFrom List.Pairwise.nil hvalue
  refine ⟨⟨_, hvalue, ?_⟩, fun one other written rewritten => Definition.isNamedBy_congr⟩
  exact
    { kept_eq := rfl
      warnings_eq := congrArg Reported.diagnostics hpass
      claimant := by
        intro claim hclaim first hfirst
        have hfound := Claim.claimant?_of_first? hclaim hfirst
        rw [List.nil_append, ← halike.claimant?_eq] at hfound
        exact ⟨List.mem_of_find?_eq_some hfound, hfound⟩
      idempotent := dedupeFrom_of_attributesDiffer hdiffer
      binds := halike.bindUsage_eq }

/-- A generator of classes without parameters and templates. -/
def plainGenerator (identifier attributeClass : ClassIdentifier) : Definition where
  identifier := identifier
  attributeClass := attributeClass
  kind := .onClass
  allowMultiple := false
  required := []
  optional := []
  generic := []
  templates := {}
  location := none

/-- A generator for caches, with names for its generic arguments. -/
def cacheGenerator (scope arguments : String) : Definition :=
  plainGenerator ⟨scope, "CacheGenerator" ++ arguments⟩ ⟨"Stencil", "CacheAttribute" ++ arguments⟩

/-- Two generators of one class under different argument names, with another one between them. -/
def cachesAndLog : List Definition :=
  [cacheGenerator "Gen" "<K, V>",
   plainGenerator ⟨"Gen", "LogGenerator"⟩ ⟨"Stencil", "LogAttribute"⟩,
   cacheGenerator "Vendor" "<T, U>"]

/-- The third generator is dropped with a warning about the first. A usage that leaves out the
suffix and has its own arguments is bound as before, and names both of them. -/
theorem cachesAndLog_partitions :
    (∃ kept, (dedupeDefinitions cachesAndLog).value = some kept ∧
      kept.map (fun definition => definition.identifier.fullName) =
        ["Gen.CacheGenerator<K, V>", "Gen.LogGenerator"] ∧
      (dedupeDefinitions cachesAndLog).diagnostics.map Diagnostic.line =
        ["warning[GB2103]: 'Stencil.CacheAttribute<T, U>' from 'Vendor.CacheGenerator<T, U>' is " ++
          "already declared by 'Gen.CacheGenerator<K, V>'; this declaration is ignored"] ∧
      bindUsage kept { generator := ⟨"Stencil", "Cache<int, string>"⟩, target := .onAssembly } =
        bindUsage cachesAndLog
          { generator := ⟨"Stencil", "Cache<int, string>"⟩, target := .onAssembly }) ∧
    (cacheGenerator "Gen" "<K, V>").isNamedBy ⟨"Stencil", "Cache<int, string>"⟩ = true ∧
    (cacheGenerator "Vendor" "<T, U>").isNamedBy ⟨"Stencil", "Cache<A, B>"⟩ = true := by
  obtain ⟨⟨kept, hvalue, hpass⟩, hnamed⟩ := dedupeDefinitions_partitions cachesAndLog
  have hclass : (cacheGenerator "Gen" "<K, V>").attributeClass.isSameClass
      (cacheGenerator "Vendor" "<T, U>").attributeClass = true := by decide +kernel
  have hwritten : (⟨"Stencil", "Cache<int, string>"⟩ : ClassIdentifier).isSameClass
      ⟨"Stencil", "Cache<A, B>"⟩ = true := by decide +kernel
  have hfirst : (cacheGenerator "Gen" "<K, V>").isNamedBy
      ⟨"Stencil", "Cache<int, string>"⟩ = true := by decide +kernel
  refine ⟨⟨kept, hvalue, ?_, ?_, hpass.binds _⟩, hfirst, ?_⟩
  · rw [hpass.kept_eq]
    decide +kernel
  · rw [hpass.warnings_eq]
    decide +kernel
  · rw [← hnamed _ _ _ _ hclass hwritten]
    exact hfirst

end TemplateCodegen
