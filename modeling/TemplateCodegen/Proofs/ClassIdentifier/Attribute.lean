import TemplateCodegen.ClassIdentifier.Attribute
import TemplateCodegen.Proofs.ClassIdentifier.Rereading

/-!
# Derived names

An attribute class takes its name from that of the generator, attributes are written with their
suffix or without it, and a class may be taken into another namespace. Main statements: all of these
keep the argument list (`IsRenamed.suffixOf_eq`); of two names of one class either both can be
written without the suffix or neither can (`withoutAttributeSuffix?_congr`); and the attribute class
of a generator whose name was read is writable (`isWritable_attributeForGenerator`).
-/

namespace TemplateCodegen.ClassIdentifier

variable {identifier read one other : ClassIdentifier}

/-! ### Changes of the base name -/

/-- A new base name without a bracket is the base name, and the arguments are kept. -/
theorem parts_withBase (identifier : ClassIdentifier) {base : List Char} (hbase : '<' ∉ base) :
    baseOf (identifier.withBase base).className.toList = base ∧
      suffixOf (identifier.withBase base).className.toList =
        suffixOf identifier.className.toList := by
  rw [withBase, String.toList_ofList]
  exact parts_append hbase _ fun c => eq_of_head?_suffixOf

/-- A new base name without a bracket keeps the number of generic arguments. -/
theorem genericArity_withBase (identifier : ClassIdentifier) {base : List Char}
    (hbase : '<' ∉ base) : (identifier.withBase base).genericArity = identifier.genericArity := by
  have hsuffix := (parts_withBase identifier hbase).2
  unfold genericArity arityOf
  rw [hsuffix]

/-- Under one new base name the names of one class are the names of one class. -/
theorem isSameClass_withBase (h : one.isSameClass other = true) {base : List Char}
    (hbase : '<' ∉ base) : (one.withBase base).isSameClass (other.withBase base) = true := by
  have hone := (parts_withBase one hbase).1
  have hother := (parts_withBase other hbase).1
  simp only [isSameClass, Bool.and_eq_true, beq_iff_eq] at h ⊢
  refine ⟨⟨h.1.1, ?_⟩, ?_⟩
  · rw [nameWithoutGenerics, nameWithoutGenerics, hone, hother]
  · rw [genericArity_withBase one hbase, genericArity_withBase other hbase]
    exact h.2

/-! ### Suffixes of the base name -/

/-- A suffix that is found is the end of the text, up to the identification of characters. -/
theorem exists_of_stripEnd? {fold : Char → Char} {suffix cs stem : List Char}
    (h : stripEnd? fold suffix cs = some stem) :
    ∃ ending, cs = stem ++ ending ∧ ending.map fold = suffix.map fold := by
  unfold stripEnd? at h
  dsimp only at h
  split at h
  · rename_i hend
    rw [← Option.some.inj h]
    exact ⟨_, (List.take_append_drop _ cs).symm, hend.2⟩
  · cases h

/-- What stands in front of a suffix of the base name has no bracket. -/
theorem notMem_of_stripEnd? {fold : Char → Char} {suffix stem : List Char}
    (h : stripEnd? fold suffix (baseOf identifier.className.toList) = some stem) : '<' ∉ stem := by
  obtain ⟨ending, hbase, -⟩ := exists_of_stripEnd? h
  intro hmem
  refine notMem_baseOf identifier.className.toList ?_
  rw [hbase]
  exact List.mem_append_left ending hmem

/-- The base name ends in `Generator`, in any case of its letters. -/
def EndsInGenerator (identifier : ClassIdentifier) : Prop :=
  ∃ stem ending, baseOf identifier.className.toList = stem ++ ending ∧
    ending.map Char.toLower = "generator".toList

/-- What the class has in the suffix is looked for there. -/
theorem hasGeneratorSuffix_iff (identifier : ClassIdentifier) :
    identifier.hasGeneratorSuffix = true ↔ identifier.EndsInGenerator := by
  have hsuffix : generatorSuffix.map Char.toLower = "generator".toList := by decide +kernel
  unfold hasGeneratorSuffix generatorStem?
  constructor
  · intro h
    obtain ⟨stem, hstem⟩ := Option.isSome_iff_exists.1 h
    obtain ⟨ending, hbase, hending⟩ := exists_of_stripEnd? hstem
    exact ⟨stem, ending, hbase, hending.trans hsuffix⟩
  · rintro ⟨stem, ending, hbase, hending⟩
    have hlength : ending.length = generatorSuffix.length := by
      have h := congrArg List.length (hending.trans hsuffix.symm)
      simpa using h
    have hend : generatorSuffix.length ≤ (stem ++ ending).length ∧
        ((stem ++ ending).drop ((stem ++ ending).length - generatorSuffix.length)).map
          Char.toLower = generatorSuffix.map Char.toLower := by
      rw [List.length_append, hlength, Nat.add_sub_cancel, List.drop_left]
      exact ⟨Nat.le_add_left .., hending.trans hsuffix.symm⟩
    rw [hbase, stripEnd?, if_pos hend]
    rfl

/-- The base name of a generator class without its suffix has no bracket. -/
theorem notMem_generatorStem (identifier : ClassIdentifier) :
    '<' ∉ identifier.generatorStem?.getD (baseOf identifier.className.toList) := by
  cases hstem : identifier.generatorStem? with
  | none => exact notMem_baseOf _
  | some stem => exact notMem_of_stripEnd? hstem

/-- What a derived name leaves out of the base name has neither dots nor brackets. -/
theorem exists_ending_of_stem (identifier : ClassIdentifier) :
    ∃ ending, baseOf identifier.className.toList =
        identifier.generatorStem?.getD (baseOf identifier.className.toList) ++ ending ∧
      ∀ c ∈ ending, c ≠ '.' ∧ c ≠ '<' ∧ c ≠ '>' := by
  cases hstem : identifier.generatorStem? with
  | none => exact ⟨[], (List.append_nil _).symm, List.forall_mem_nil _⟩
  | some stem =>
    obtain ⟨ending, hbase, hfold⟩ := exists_of_stripEnd? hstem
    refine ⟨ending, hbase, fun c hc => ?_⟩
    have hlower : c.toLower ∈ generatorSuffix.map Char.toLower :=
      hfold ▸ List.mem_map_of_mem hc
    refine ⟨?_, ?_, ?_⟩ <;> (rintro rfl; exact absurd hlower (by decide))

/-- `Attribute` has no bracket. -/
theorem notMem_append_attributeSuffix {stem : List Char} (h : '<' ∉ stem) :
    '<' ∉ stem ++ attributeSuffix := by
  intro hmem
  rcases List.mem_append.1 hmem with hmem | hmem
  · exact h hmem
  · exact absurd hmem (by decide)

/-- Of two names of one class either both have a short form, and these name one class again, or
neither has. -/
theorem withoutAttributeSuffix?_congr (h : one.isSameClass other = true) :
    Option.Rel (fun short short' => short.isSameClass short' = true)
      one.withoutAttributeSuffix? other.withoutAttributeSuffix? := by
  have hbase : baseOf one.className.toList = baseOf other.className.toList := by
    simp only [isSameClass, Bool.and_eq_true, beq_iff_eq, nameWithoutGenerics,
      String.ofList_inj] at h
    exact h.1.2
  unfold withoutAttributeSuffix?
  rw [hbase]
  cases hstem : stripEnd? id attributeSuffix (baseOf other.className.toList) with
  | none => exact .none
  | some stem =>
    have hbracket : '<' ∉ stem := notMem_of_stripEnd? hstem
    cases stem with
    | nil => exact .none
    | cons c stem => exact .some (isSameClass_withBase h hbracket)

/-! ### Names for the same arguments -/

/-- The class in another namespace, or under a name with or without the suffix of attribute
classes. -/
inductive IsRenamed (identifier : ClassIdentifier) : ClassIdentifier → Prop where
  /-- The same name in another namespace. -/
  | inNamespace (namespaceName : String) :
      IsRenamed identifier (identifier.inNamespace namespaceName)
  /-- The attribute class of a generator. -/
  | attributeForGenerator : IsRenamed identifier identifier.attributeForGenerator
  /-- The name with its suffix. -/
  | withAttributeSuffix : IsRenamed identifier identifier.withAttributeSuffix
  /-- The name without its suffix. -/
  | withoutAttributeSuffix {short : ClassIdentifier}
      (h : identifier.withoutAttributeSuffix? = some short) : IsRenamed identifier short

/-- Every such name keeps the argument list. -/
theorem IsRenamed.suffixOf_eq {renamed : ClassIdentifier} (h : identifier.IsRenamed renamed) :
    suffixOf renamed.className.toList = suffixOf identifier.className.toList := by
  cases h with
  | inNamespace namespaceName => rfl
  | attributeForGenerator =>
    exact (parts_withBase identifier <|
      notMem_append_attributeSuffix (notMem_generatorStem identifier)).2
  | withAttributeSuffix =>
    unfold ClassIdentifier.withAttributeSuffix
    dsimp only
    split
    · rfl
    · exact (parts_withBase identifier (notMem_append_attributeSuffix (notMem_baseOf _))).2
  | withoutAttributeSuffix h =>
    unfold withoutAttributeSuffix? at h
    split at h
    · cases h
    · rename_i stem _ hstem
      obtain rfl := Option.some.inj h
      exact (parts_withBase identifier (notMem_of_stripEnd? hstem)).2
    · cases h

/-- Every such name keeps the number of arguments. -/
theorem IsRenamed.genericArity_eq {renamed : ClassIdentifier} (h : identifier.IsRenamed renamed) :
    renamed.genericArity = identifier.genericArity := by
  rw [genericArity, genericArity, arityOf, arityOf, h.suffixOf_eq]

/-! ### Attribute classes -/

/-- The base name ends in `Attribute`. -/
def IsAttribute (identifier : ClassIdentifier) : Prop :=
  ∃ stem, baseOf identifier.className.toList = stem ++ attributeSuffix

/-- The attribute class of a generator has a name of attribute classes. -/
theorem isAttribute_attributeForGenerator (identifier : ClassIdentifier) :
    identifier.attributeForGenerator.IsAttribute := by
  have hbracket := notMem_append_attributeSuffix (notMem_generatorStem identifier)
  exact ⟨_, (parts_withBase identifier hbracket).1⟩

/-- Behind which `Attribute` is put has a name of attribute classes. -/
theorem isAttribute_withAttributeSuffix (identifier : ClassIdentifier) :
    identifier.withAttributeSuffix.IsAttribute := by
  unfold withAttributeSuffix
  dsimp only
  split
  · rename_i stem hstem
    exact ⟨stem, (stripEnd?_id_append hstem).symm⟩
  · exact ⟨_, (parts_withBase identifier (notMem_append_attributeSuffix (notMem_baseOf _))).1⟩

/-- Such a name does not end in a blank in front of its arguments. -/
theorem IsAttribute.exists_last (h : identifier.IsAttribute) :
    ∃ c, (baseOf identifier.className.toList).getLast? = some c ∧ Text.isBlank c = false := by
  obtain ⟨stem, hstem⟩ := h
  have hlast : attributeSuffix.getLast? = some 'e' := by decide
  refine ⟨'e', ?_, by decide⟩
  rw [hstem, List.getLast?_append, hlast, Option.some_or]

/-- The full name of an attribute class is never read as the class without the suffix. -/
theorem not_isSameClass_of_parse {short : ClassIdentifier}
    (hshort : identifier.withoutAttributeSuffix? = some short)
    (h : parse identifier.fullName = .ok read) : short.isSameClass read = false := by
  obtain ⟨stem, hstem, rfl⟩ : ∃ stem,
      stem ++ attributeSuffix = baseOf identifier.className.toList ∧
        short = identifier.withBase stem := by
    unfold withoutAttributeSuffix? at hshort
    split at hshort
    · cases hshort
    · rename_i stem _ hstem
      exact ⟨stem, stripEnd?_id_append hstem, (Option.some.inj hshort).symm⟩
    · cases hshort
  have hbracket : '<' ∉ stem := fun hmem =>
    notMem_baseOf identifier.className.toList (hstem ▸ List.mem_append_left _ hmem)
  by_contra hsame
  rw [Bool.not_eq_false] at hsame
  simp only [isSameClass, Bool.and_eq_true, beq_iff_eq, nameWithoutGenerics, String.ofList_inj,
    (parts_withBase identifier hbracket).1, withBase_namespaceName] at hsame
  obtain ⟨⟨hspace, hbase⟩, -⟩ := hsame
  obtain ⟨before, behind, hname, hbefore, hbehind, -⟩ := exists_around_of_parse h hspace.symm
  obtain ⟨more, hmore, hblank⟩ := exists_baseOf_around read.className.toList hbefore hbehind
  rw [← hname, ← hstem, ← hbase] at hmore
  -- the two sides have different numbers of capital letters
  have hcount := congrArg (List.count 'A') hmore
  have hone : List.count 'A' attributeSuffix = 1 := by decide
  have hnone : List.count 'A' before = 0 := by
    refine List.count_eq_zero.2 fun hmem => ?_
    rcases hbefore _ hmem with hmem | hmem
    · exact absurd hmem (by decide)
    · exact absurd hmem (by decide)
  have hnone' : List.count 'A' more = 0 :=
    List.count_eq_zero.2 fun hmem => absurd (hblank _ hmem) (by decide)
  simp only [List.count_append] at hcount
  omega

/-- A derived name in a namespace that does not begin with a blank and closes its brackets is
writable, when the generator's own name was read. -/
theorem isWritable_attributeForGenerator {text namespaceName : String} {first : Char}
    (h : parse text = .ok identifier) (hfirst : namespaceName.toList.head? = some first)
    (hsolid : Text.isBlank first = false) (hclosed : depthBehind 0 namespaceName.toList = 0) :
    (identifier.attributeForGenerator.inNamespace namespaceName).IsWritable := by
  obtain ⟨_, front, _, -, -, -, hspelling⟩ := parse_eq_ok_iff.1 h
  have hname : (identifier.attributeForGenerator.inNamespace namespaceName).className.toList =
      identifier.generatorStem?.getD (baseOf identifier.className.toList) ++ attributeSuffix ++
        suffixOf identifier.className.toList := String.toList_ofList
  obtain ⟨ending, hbase, hending⟩ := exists_ending_of_stem identifier
  obtain ⟨stem, hstem⟩ : ∃ stem,
      identifier.generatorStem?.getD (baseOf identifier.className.toList) = stem := ⟨_, rfl⟩
  rw [hstem] at hname hbase
  have hwhole := baseOf_append_suffixOf identifier.className.toList
  rw [hbase] at hwhole
  have hbracket : '<' ∉ stem ++ attributeSuffix := notMem_append_attributeSuffix fun hmem =>
    notMem_baseOf _ (hbase ▸ List.mem_append_left ending hmem)
  have hplain : ∀ depth, depthBehind depth attributeSuffix = depth :=
    depthBehind_of_forall_ne fun c hc => by
      constructor <;> (rintro rfl; exact absurd hc (by decide))
  have hlast : ∀ c, (stem ++ attributeSuffix ++ suffixOf identifier.className.toList).getLast? =
      some c → Text.isBlank c = false := by
    intro c hc
    rw [List.getLast?_append] at hc
    cases hsuffix : (suffixOf identifier.className.toList).getLast? with
    | none =>
      have hletter : attributeSuffix.getLast? = some 'e' := by decide
      rw [hsuffix, Option.none_or, List.getLast?_append, hletter, Option.some_or] at hc
      rw [← Option.some.inj hc]
      decide
    | some end' =>
      rw [hsuffix, Option.some_or] at hc
      refine hspelling.last c ?_
      rw [← hwhole, List.getLast?_append, hsuffix, hc, Option.some_or]
  refine ⟨fun c hc => ?_, hclosed, ?_, ?_⟩
  · have hne : namespaceName ≠ "" := by
      rintro rfl
      cases hfirst
    rw [toList_fullName, frontOf, inNamespace, if_neg hne, List.append_assoc, List.head?_append,
      hfirst, Option.some_or] at hc
    rw [← Option.some.inj hc]
    exact hsolid
  · have hundotted := hspelling.undotted
    rw [← hwhole, List.append_assoc, splitAtLastDot_append_eq_none_iff,
      splitAtLastDot_append_eq_none_iff,
      depthBehind_of_forall_ne (fun c hc => (hending c hc).2)] at hundotted
    rw [hname, List.append_assoc, splitAtLastDot_append_eq_none_iff,
      splitAtLastDot_append_eq_none_iff, hplain]
    exact ⟨hundotted.1, splitAtLastDot_of_notMem (by decide) _, hundotted.2.2⟩
  · have hkept := Text.dropEndWhile_append_blank Text.blank_nil hlast
    have hbalanced := hspelling.balanced
    have hsuffix := (parts_append hbracket (suffixOf identifier.className.toList)
      fun c => eq_of_head?_suffixOf).2
    rw [List.append_nil] at hkept
    unfold rawArguments? at hbalanced ⊢
    rw [hname, hkept, hsuffix]
    exact hbalanced

end TemplateCodegen.ClassIdentifier
