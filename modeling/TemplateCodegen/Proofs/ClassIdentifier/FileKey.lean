import TemplateCodegen.ClassIdentifier.Basic
import TemplateCodegen.Proofs.Text.FileKey

/-!
# Keys of classes

The key of a class comes from its full name with the generic arguments as they are written. Main
statements: two spellings of one class have one key exactly when their generic arguments have
(`escapedFileKey_eq_iff`), and classes whose names were read and have none of the characters that
stand for others have one key only when they are the same (`IsPlain.isSameClass`).
-/

namespace TemplateCodegen.ClassIdentifier

variable {one other : ClassIdentifier}

/-- The name of a class in front of its generic arguments. -/
def plainName (identifier : ClassIdentifier) : String :=
  (if identifier.namespaceName = "" then "" else identifier.namespaceName ++ ".") ++
    identifier.nameWithoutGenerics

/-- The full name is the plain name and the generic arguments. -/
theorem plainName_append_genericSuffix (identifier : ClassIdentifier) :
    identifier.plainName ++ identifier.genericSuffix = identifier.fullName := by
  rw [plainName, String.append_assoc, nameWithoutGenerics_append_genericSuffix, fullName]
  split
  · exact String.empty_append
  · rfl

/-- A class has one plain name. -/
theorem plainName_eq_of_isSameClass (h : one.isSameClass other = true) :
    one.plainName = other.plainName := by
  simp only [isSameClass, Bool.and_eq_true, beq_iff_eq] at h
  rw [plainName, plainName, h.1.1, h.1.2]

/-- Two spellings of a class have one key exactly when their generic arguments have. -/
theorem escapedFileKey_eq_iff (h : one.isSameClass other = true) :
    one.escapedFileKey = other.escapedFileKey ↔
      Text.escapeFileKey one.genericSuffix = Text.escapeFileKey other.genericSuffix := by
  rw [escapedFileKey, escapedFileKey, ← plainName_append_genericSuffix,
    ← plainName_append_genericSuffix, plainName_eq_of_isSameClass h, Text.escapeFileKey_append,
    Text.escapeFileKey_append, String.append_right_inj]

/-- Behind a dot with nothing in front of it there is no other dot to cut at. -/
theorem splitAtLastDot_of_nil {depth : Int} {cs after : List Char}
    (h : splitAtLastDot depth cs = some ([], after)) : splitAtLastDot depth after = none := by
  cases cs with
  | nil => cases h
  | cons c rest =>
    unfold splitAtLastDot at h
    split at h
    · cases h
    · rename_i hnone
      split at h
      · rename_i hdot
        obtain ⟨rfl, rfl⟩ := hdot
        cases h
        exact hnone
      · cases h

/-- An identifier that was read is a text cut at its last dot. -/
theorem exists_cut_of_parse {text : String} (h : parse text = .ok one) :
    ∃ whole, (splitAtLastDot 0 whole).getD ([], whole) =
      (one.namespaceName.toList, one.className.toList) := by
  refine ⟨Text.trim text.toList, ?_⟩
  unfold parse at h
  dsimp only at h
  split at h
  · cases h
  · split at h
    · cases h
      rw [String.toList_ofList, String.toList_ofList]
    · cases h

/-- The full name of an identifier that was read is cut where the identifier was. -/
theorem splitAtLastDot_fullName {text : String} (h : parse text = .ok one) :
    (splitAtLastDot 0 one.fullName.toList).getD ([], one.fullName.toList) =
      (one.namespaceName.toList, one.className.toList) := by
  obtain ⟨whole, hwhole⟩ := exists_cut_of_parse h
  cases hcut : splitAtLastDot 0 whole with
  | none =>
    rw [hcut, Option.getD_none, Prod.mk.injEq] at hwhole
    have hfull : one.fullName.toList = whole := by
      rw [fullName, if_pos (String.toList_eq_nil_iff.1 hwhole.1.symm), hwhole.2]
    rw [hfull, hcut, Option.getD_none, hwhole.1, hwhole.2]
  | some parts =>
    obtain ⟨before, after⟩ := parts
    rw [hcut, Option.getD_some, Prod.mk.injEq] at hwhole
    obtain ⟨rfl, rfl⟩ := hwhole
    by_cases hspace : one.namespaceName = ""
    · rw [hspace] at hcut ⊢
      rw [fullName, if_pos hspace, splitAtLastDot_of_nil hcut]
      rfl
    · have hfull : one.fullName.toList = whole := by
        rw [fullName, if_neg hspace, ← splitAtLastDot_append hcut]
        simp
      rw [hfull, hcut, Option.getD_some]

/-- Identifiers that were read have different full names unless they are the same. -/
theorem names_eq_of_fullName_eq {text text' : String} (hone : parse text = .ok one)
    (hother : parse text' = .ok other) (h : one.fullName = other.fullName) :
    one.namespaceName = other.namespaceName ∧ one.className = other.className := by
  have hcut := splitAtLastDot_fullName hone
  rw [h, splitAtLastDot_fullName hother, Prod.mk.injEq, String.toList_inj,
    String.toList_inj] at hcut
  exact ⟨hcut.1.symm, hcut.2.symm⟩

/-- The identifier was read from a text, and its name has no character that stands for another one
in keys. -/
structure IsPlain (identifier : ClassIdentifier) : Prop where
  /-- It was read. -/
  read : ∃ text, parse text = .ok identifier
  /-- No character of its name stands for another one. -/
  chars : ∀ c ∈ identifier.fullName.toList, ¬ Text.IsStandIn c

/-- Plain identifiers of one key are of one class. -/
theorem IsPlain.isSameClass (hone : one.IsPlain) (hother : other.IsPlain)
    (h : one.escapedFileKey = other.escapedFileKey) : one.isSameClass other = true := by
  have hfull := Text.escapeFileKey_inj hone.chars hother.chars h
  obtain ⟨text, hread⟩ := hone.read
  obtain ⟨text', hread'⟩ := hother.read
  obtain ⟨hspace, hclass⟩ := names_eq_of_fullName_eq hread hread' hfull
  simp [ClassIdentifier.isSameClass, nameWithoutGenerics, genericArity, hspace, hclass]

end TemplateCodegen.ClassIdentifier
